import DiceWords.Expression
import DiceWords.Proofs.Term.Refusal

/-! # Whose fault an error is

A letter that names no die makes no word begin like dice, so reading a word never stumbles over one:
whatever error it ends with, the one who wrote the word can mend it
(`Expression.mendable_parse`). -/

namespace DiceWords

/-- If this is an error, its writer can mend it. -/
def Mendable {α : Type} (result : Except Error α) : Prop :=
  ∀ error, result = .error error → error.isUserError

section

variable {α : Type}

/-- Nothing needs to be mended in what has been read. -/
theorem mendable_ok (a : α) : Mendable (.ok a : Except Error α) := by
  intro error failed
  cases failed

/-- An error that the writer can mend is one to be mended. -/
theorem mendable_error {error : Error} (user : error.isUserError) :
    Mendable (.error error : Except Error α) := by
  intro other failed
  cases failed
  exact user

end

namespace Term

/-- What is wrong with a term can be mended. -/
theorem mendable_take? (options : Options) (text : List Char) : Mendable (take? options text) := by
  intro error failed
  obtain ⟨why, rfl⟩ := exists_invalid_of_take? failed
  rfl

end Term

namespace Expression

/-- What is wrong with the rest of a chain can be mended. -/
theorem mendable_links? (options : Options) (word : String) (read : Nat) (text : List Char) :
    Mendable (links? options word read text) := by
  fun_induction links? options word read text with
  | case1 => exact mendable_ok _
  | case2 => exact mendable_ok _
  | case3 => exact mendable_error rfl
  -- the term behind the sign cannot be read
  | case4 read c text sign signed few error taken =>
      exact mendable_error (Term.mendable_take? options text error taken)
  | case5 => exact mendable_error rfl
  | case6 => exact mendable_error rfl
  -- the links behind it cannot be read
  | case7 read c text sign signed few term rest taken shorter bare error failed ih =>
      exact mendable_error (ih error failed)
  | case8 => exact mendable_ok _
  | case9 => exact mendable_ok _

/-- **Every error is the writer's.** -/
theorem mendable_parse (options : Options) (word : String) : Mendable (parse options word) := by
  unfold parse
  split
  · next error taken => exact mendable_error (Term.mendable_take? options _ error taken)
  · exact mendable_ok none
  · next term rest taken =>
    split
    · split
      · exact mendable_ok _
      · exact mendable_error rfl
    · split
      · next error failed => exact mendable_error (mendable_links? options word 1 rest error failed)
      · exact mendable_ok none
      · exact mendable_ok _

end Expression

end DiceWords
