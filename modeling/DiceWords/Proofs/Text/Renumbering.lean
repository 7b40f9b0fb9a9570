import DiceWords.Proofs.Text.Numeral
import Mathlib.Data.Option.Basic

/-! # Texts that differ in their numbers

Renumbering a text puts other numerals in the place of its maximal runs of digits and leaves all
other characters as they are. A number is then found in one text exactly when one is found in the
other, and what stands behind it differs in its numbers only (`Renumbered.number?`). The same holds
of names that are written without digits (`Renumbered.named`). -/

namespace DiceWords.Text

/-- The second text has other numerals in the place of the maximal runs of digits of the first. -/
inductive Renumbered : List Char → List Char → Prop
  | nil : Renumbered [] []
  | char {c : Char} {rest rest' : List Char} (other : c.isDigit = false)
      (behind : Renumbered rest rest') : Renumbered (c :: rest) (c :: rest')
  | number {digits digits' rest rest' : List Char} (numeral : Numeral digits)
      (numeral' : Numeral digits') (maximal : startsDigit rest = false)
      (behind : Renumbered rest rest') : Renumbered (digits ++ rest) (digits' ++ rest')

/-- What is found in a text is found in the other, with a text behind it that differs in its
numbers only. -/
def SameFound {α : Type} (found found' : α × List Char) : Prop :=
  found.1 = found'.1 ∧ Renumbered found.2 found'.2

namespace Renumbered

variable {text text' : List Char}

/-- Texts that differ in their numbers only begin with a digit both or neither. -/
theorem startsDigit_eq (renumbered : Renumbered text text') :
    startsDigit text = startsDigit text' := by
  cases renumbered with
  | nil => rfl
  | char => rfl
  | number numeral numeral' =>
      rw [startsDigit_append numeral, startsDigit_append numeral']

/-- No number vanishes. -/
theorem ne_nil (renumbered : Renumbered text text') (nonempty : text ≠ []) : text' ≠ [] := by
  cases renumbered with
  | nil => exact nonempty
  | char => exact List.cons_ne_nil _ _
  | number _ numeral' => exact List.append_ne_nil_of_left_ne_nil numeral'.nonempty _

/-- To differ in numbers only goes both ways. -/
theorem symm (renumbered : Renumbered text text') : Renumbered text' text := by
  induction renumbered with
  | nil => exact .nil
  | char other _ ih => exact .char other ih
  | number numeral numeral' maximal behind ih =>
      exact .number numeral' numeral (behind.startsDigit_eq.symm.trans maximal) ih

/-- Characters that are no digits stay where they are. -/
theorem exists_eq_append {letters rest : List Char} (plain : ∀ c ∈ letters, c.isDigit = false)
    (renumbered : Renumbered (letters ++ rest) text') :
    ∃ rest', text' = letters ++ rest' ∧ Renumbered rest rest' := by
  induction letters generalizing text' with
  | nil => exact ⟨text', rfl, renumbered⟩
  | cons c letters ih =>
      obtain ⟨first, others⟩ := List.forall_mem_cons.mp plain
      generalize written : c :: letters ++ rest = text at renumbered
      cases renumbered with
      | nil => exact nomatch written
      | char other behind =>
          obtain ⟨rfl, rfl⟩ := List.cons.inj written
          obtain ⟨rest', rfl, renumbered⟩ := ih others behind
          exact ⟨rest', rfl, renumbered⟩
      | @number digits _ after _ numeral =>
          have digit := startsDigit_append numeral after
          rw [← written] at digit
          exact absurd digit (by simp [first])

/-- A number is found in both texts or in neither. -/
protected theorem number? (renumbered : Renumbered text text') :
    Option.Rel (fun found found' => Renumbered found.2 found'.2) (number? text) (number? text') := by
  cases renumbered with
  | nil => exact .none
  | @char c _ _ other =>
      have missing (rest : List Char) : number? (c :: rest) = none :=
        number?_of_not_startsDigit other
      rw [missing, missing]
      exact .none
  | number numeral numeral' maximal behind =>
      rw [number?_append numeral maximal,
        number?_append numeral' (behind.startsDigit_eq.symm.trans maximal)]
      exact .some behind

/-- A name without digits is found in both texts or in neither. -/
theorem named {α : Type} {take? : List Char → Option (α × List Char)} (name : α → List Char)
    (named : ∀ {text rest : List Char} {a : α}, take? text = some (a, rest) → text = name a ++ rest)
    (finds : ∀ (a : α) (rest : List Char), take? (name a ++ rest) = some (a, rest))
    (plain : ∀ a, ∀ c ∈ name a, c.isDigit = false) (renumbered : Renumbered text text') :
    Option.Rel SameFound (take? text) (take? text') := by
  have onwards {text text' rest : List Char} {a : α} (renumbered : Renumbered text text')
      (found : take? text = some (a, rest)) :
      ∃ rest', take? text' = some (a, rest') ∧ Renumbered rest rest' := by
    rw [named found] at renumbered
    obtain ⟨rest', rfl, behind⟩ := exists_eq_append (plain a) renumbered
    exact ⟨rest', finds a rest', behind⟩
  rcases found : take? text with _ | ⟨a, rest⟩
  · rcases found' : take? text' with _ | ⟨a, rest'⟩
    · exact .none
    · obtain ⟨rest, again, -⟩ := onwards renumbered.symm found'
      rw [found] at again
      exact nomatch again
  · obtain ⟨rest', found', behind⟩ := onwards renumbered found
    rw [found']
    exact .some ⟨rfl, behind⟩

end Renumbered

end DiceWords.Text
