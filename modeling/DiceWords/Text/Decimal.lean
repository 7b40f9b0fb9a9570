import DiceWords.Word64

/-! # Decimal numbers in text

Only the ASCII digits `0` to `9` count as digits. A run of them of any length, leading zeros
included, has a value; a reader accepts it up to a bound. -/

namespace DiceWords.Text

/-- The run of digits at the start of a text, if it is not empty, and what follows it. -/
def number? (text : List Char) : Option (List Char × List Char) :=
  if (text.takeWhile Char.isDigit).isEmpty then none
  else some (text.takeWhile Char.isDigit, text.dropWhile Char.isDigit)

/-- The number that a run of digits stands for. -/
def value (digits : List Char) : Nat :=
  Nat.ofDigitChars 10 digits 0

/-- The number that a run of digits stands for, if it is at most `bound`. The reading ends where
the number so far is beyond the bound, since digits behind it make it no smaller. -/
def valueUpTo? (bound : Nat) (digits : List Char) : Option Nat :=
  digits.foldlM
    (fun n c =>
      let next := 10 * n + (c.toNat - '0'.toNat)
      if next ≤ bound then some next else none)
    0

/-- The count a whole text stands for: an optional `+` and at least one digit. -/
def count? (text : List Char) : Option Nat :=
  let digits := match text with
    | '+' :: digits => digits
    | digits => digits
  match number? digits with
  | some (digits, []) => valueUpTo? maxCount digits
  | _ => none

/-- A run of digits and what follows it make up the text, and the run is not empty. -/
theorem number?_eq_some {text digits rest : List Char}
    (found : number? text = some (digits, rest)) : text = digits ++ rest ∧ digits ≠ [] := by
  unfold number? at found
  split at found
  · contradiction
  · next nonempty =>
    obtain ⟨rfl, rfl⟩ := Prod.mk.inj (Option.some.inj found)
    exact ⟨List.takeWhile_append_dropWhile.symm, by simpa using nonempty⟩

/-- A run of digits holds digits only. -/
theorem isDigit_of_number? {text digits rest : List Char}
    (found : number? text = some (digits, rest)) : digits.all Char.isDigit := by
  unfold number? at found
  split at found
  · contradiction
  · obtain ⟨rfl, rfl⟩ := Prod.mk.inj (Option.some.inj found)
    exact List.all_takeWhile

/-- A number grows with the digits behind it. -/
theorem le_ofDigitChars (digits : List Char) (n : Nat) : n ≤ Nat.ofDigitChars 10 digits n := by
  induction digits generalizing n with
  | nil => simp
  | cons c digits ih =>
    rw [Nat.ofDigitChars_cons]
    exact Nat.le_trans (by omega) (ih _)

/-- Reading up to a bound finds the value of the digits when that is within the bound, and nothing
else. -/
theorem valueUpTo?_eq (bound : Nat) (digits : List Char) :
    valueUpTo? bound digits = if value digits ≤ bound then some (value digits) else none := by
  suffices reads : ∀ n ≤ bound,
      digits.foldlM
        (fun n c =>
          let next := 10 * n + (c.toNat - '0'.toNat)
          if next ≤ bound then some next else none) n =
        if Nat.ofDigitChars 10 digits n ≤ bound then some (Nat.ofDigitChars 10 digits n)
        else none from reads 0 (Nat.zero_le bound)
  induction digits with
  | nil => intro n small; simp [small]
  | cons c digits ih =>
    intro n _
    rw [List.foldlM_cons, Nat.ofDigitChars_cons]
    by_cases small : 10 * n + (c.toNat - '0'.toNat) ≤ bound
    · simp only [small, if_true]
      exact ih _ small
    · have beyond := le_ofDigitChars digits (10 * n + (c.toNat - '0'.toNat))
      rw [if_neg (by omega : ¬ Nat.ofDigitChars 10 digits _ ≤ bound)]
      simp only [small, if_false]
      rfl

end DiceWords.Text
