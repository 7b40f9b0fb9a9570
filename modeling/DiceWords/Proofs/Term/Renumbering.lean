import DiceWords.Proofs.Term.Match
import DiceWords.Proofs.Text.Plain
import DiceWords.Proofs.Text.Renumbering

/-! # Terms in renumbered texts

Which term is found at the start of a text depends on its letters and signs and on where its numbers
stand, but not on the numbers: in a renumbered text the same term is found with other numbers in it,
and the text behind it is renumbered in turn (`Clauses.match?_renumbered`). -/

namespace DiceWords.Clauses

open Text (Renumbered SameFound)

/-- The clauses differ in their numbers only. -/
structure Alike (clauses clauses' : Clauses) : Prop where
  repeats : clauses.repeats.isSome = clauses'.repeats.isSome
  die : clauses.die = clauses'.die
  keep : clauses.keep.map Prod.fst = clauses'.keep.map Prod.fst
  modifier : clauses.modifier.map Prod.fst = clauses'.modifier.map Prod.fst

/-- A repeat clause does not vanish when its number changes. -/
theorem Alike.bare {clauses clauses' : Clauses} (alike : Alike clauses clauses')
    (bare : clauses.repeats = none) : clauses'.repeats = none := by
  simpa [bare] using alike.repeats.symm

variable {text text' : List Char}

/-- The same die letter stands at the start. -/
theorem takeDie?_renumbered (renumbered : Renumbered text text') :
    Option.Rel SameFound (takeDie? text) (takeDie? text') := by
  apply renumbered.named (fun die => [die.letter]) takeDie?_eq_some takeDie?_cons
  intro die
  exact List.forall_mem_singleton.mpr (startsDigit_letter die [])

/-- The same letters of a keep clause stand at the start. -/
theorem takeSide?_renumbered (renumbered : Renumbered text text') :
    Option.Rel SameFound (takeSide? text) (takeSide? text') := by
  apply renumbered.named (fun side => side.letters.toList) takeSide?_eq_some takeSide?_append
  intro side
  apply Text.forall_mem_of_all
  cases side <;> decide

/-- The same sign stands at the start. -/
theorem takeSign?_renumbered (renumbered : Renumbered text text') :
    Option.Rel SameFound (takeSign? text) (takeSign? text') := by
  apply renumbered.named (fun sign => [sign.char]) takeSign?_eq_some takeSign?_cons
  intro sign
  exact List.forall_mem_singleton.mpr (startsDigit_sign sign [])

/-- What would make digits in front of a text part of a term is no digit itself. -/
theorem continuesTerm_renumbered (renumbered : Renumbered text text') :
    continuesTerm text = continuesTerm text' := by
  have digits {text : List Char} (digit : Text.startsDigit text = true) :
      continuesTerm text = false := by
    apply Bool.eq_false_iff.mpr
    intro continues
    rw [startsDigit_of_continuesTerm continues] at digit
    exact nomatch digit
  cases renumbered with
  | nil => rfl
  | char => rfl
  | number numeral numeral' =>
      rw [digits (Text.startsDigit_append numeral _), digits (Text.startsDigit_append numeral' _)]

/-- A repeat clause is found in both texts or in neither. -/
theorem takeRepeats_renumbered (renumbered : Renumbered text text') :
    (takeRepeats text).1.isSome = (takeRepeats text').1.isSome ∧
      Renumbered (takeRepeats text).2 (takeRepeats text').2 := by
  have numbers := renumbered.number?
  unfold takeRepeats
  generalize Text.number? text = found, Text.number? text' = found' at numbers
  cases numbers with
  | none => exact ⟨rfl, renumbered⟩
  | @some number number' behind =>
      obtain ⟨digits, rest⟩ := number
      obtain ⟨digits', rest'⟩ := number'
      have hash {rest rest' : List Char} (behind : Renumbered ('#' :: rest) rest') :
          ∃ after, rest' = '#' :: after ∧ Renumbered rest after :=
        behind.exists_eq_append (List.forall_mem_singleton.mpr rfl)
      dsimp only at behind ⊢
      split
      · next counted =>
        obtain ⟨-, rfl⟩ := Prod.mk.inj (Option.some.inj counted)
        obtain ⟨after, rfl, renumbered⟩ := hash behind
        exact ⟨rfl, renumbered⟩
      · next bare =>
        split
        · next counted =>
          obtain ⟨-, rfl⟩ := Prod.mk.inj (Option.some.inj counted)
          obtain ⟨after, rfl, -⟩ := hash behind.symm
          exact absurd rfl (bare _ _)
        · exact ⟨rfl, renumbered⟩

/-- A keep clause is found in both texts or in neither, and it keeps the same end of the dice. -/
theorem takeKeep_renumbered (renumbered : Renumbered text text') :
    (takeKeep text).1.map Prod.fst = (takeKeep text').1.map Prod.fst ∧
      Renumbered (takeKeep text).2 (takeKeep text').2 := by
  have sides := takeSide?_renumbered renumbered
  unfold takeKeep
  generalize takeSide? text = found, takeSide? text' = found' at sides
  cases sides with
  | none => exact ⟨rfl, renumbered⟩
  | @some sided sided' same =>
      obtain ⟨side, counted⟩ := sided
      obtain ⟨_, counted'⟩ := sided'
      obtain ⟨rfl, behind⟩ := same
      have numbers := behind.number?
      dsimp only at numbers ⊢
      generalize Text.number? counted = found, Text.number? counted' = found' at numbers
      cases numbers with
      | none => exact ⟨rfl, renumbered⟩
      | some rest => exact ⟨rfl, rest⟩

/-- A modifier is found in both texts or in neither, and behind the same sign. -/
theorem takeModifier_renumbered (renumbered : Renumbered text text') :
    (takeModifier text).1.map Prod.fst = (takeModifier text').1.map Prod.fst ∧
      Renumbered (takeModifier text).2 (takeModifier text').2 := by
  have signs := takeSign?_renumbered renumbered
  unfold takeModifier
  generalize takeSign? text = found, takeSign? text' = found' at signs
  cases signs with
  | none => exact ⟨rfl, renumbered⟩
  | @some signed signed' same =>
      obtain ⟨sign, counted⟩ := signed
      obtain ⟨_, counted'⟩ := signed'
      obtain ⟨rfl, behind⟩ := same
      have numbers := behind.number?
      dsimp only at numbers ⊢
      generalize Text.number? counted = found, Text.number? counted' = found' at numbers
      cases numbers with
      | none => exact ⟨rfl, renumbered⟩
      | @some number number' rest =>
          dsimp only
          rw [continuesTerm_renumbered rest]
          split
          · exact ⟨rfl, renumbered⟩
          · exact ⟨rfl, rest⟩

/-- The counts and the die letter are found in both texts or in neither. -/
theorem takeDice?_renumbered (renumbered : Renumbered text text') :
    Option.Rel
      (fun found found' => found.1.1.isSome = found'.1.1.isSome ∧ found.1.2.2 = found'.1.2.2 ∧
        Renumbered found.2 found'.2)
      (takeDice? text) (takeDice? text') := by
  obtain ⟨repeats, behind⟩ := takeRepeats_renumbered renumbered
  have numbers := behind.number?
  unfold takeDice?
  generalize Text.number? (takeRepeats text).2 = found,
    Text.number? (takeRepeats text').2 = found' at numbers
  cases numbers with
  | none => exact .none
  | @some number number' lettered =>
      have dice := takeDie?_renumbered lettered
      dsimp only at dice ⊢
      generalize takeDie? number.2 = found, takeDie? number'.2 = found' at dice
      cases dice with
      | none => exact .none
      | some same => exact .some ⟨repeats, same.1, same.2⟩

/-- **A renumbered text begins with the same term.** Only its numbers may be others. -/
theorem match?_renumbered (renumbered : Renumbered text text') :
    Option.Rel (fun found found' => Alike found.1 found'.1 ∧ Renumbered found.2 found'.2)
      (match? text) (match? text') := by
  have dice := takeDice?_renumbered renumbered
  unfold match?
  generalize takeDice? text = found, takeDice? text' = found' at dice
  cases dice with
  | none => exact .none
  | @some found found' same =>
      obtain ⟨⟨repeats, amount, die⟩, rest⟩ := found
      obtain ⟨⟨repeats', amount', die'⟩, rest'⟩ := found'
      obtain ⟨repeatsAlike, dieAlike, behind⟩ := same
      obtain ⟨keepAlike, kept⟩ := takeKeep_renumbered behind
      obtain ⟨modifierAlike, modified⟩ := takeModifier_renumbered kept
      exact .some ⟨⟨repeatsAlike, dieAlike, keepAlike, modifierAlike⟩, modified⟩

/-- Where no term stands, other numbers make none. -/
theorem match?_of_renumbered_of_missing (renumbered : Renumbered text text')
    (missing : match? text = none) : match? text' = none := by
  have terms := match?_renumbered renumbered
  rw [missing] at terms
  cases found : match? text' with
  | none => rfl
  | some found' =>
      rw [found] at terms
      exact nomatch terms

/-- **Where a term stands, other numbers make another one like it**, and what follows it differs in
its numbers only. -/
theorem exists_match?_of_renumbered {rest : List Char} {clauses : Clauses}
    (renumbered : Renumbered text text') (found : match? text = some (clauses, rest)) :
    ∃ clauses' rest', match? text' = some (clauses', rest') ∧ Alike clauses clauses' ∧
      Renumbered rest rest' := by
  have terms := match?_renumbered renumbered
  rw [found] at terms
  rcases found' : match? text' with _ | ⟨clauses', rest'⟩
  · rw [found'] at terms
    exact nomatch terms
  · rw [found'] at terms
    cases terms with
    | some same => exact ⟨clauses', rest', rfl, same⟩

end DiceWords.Clauses
