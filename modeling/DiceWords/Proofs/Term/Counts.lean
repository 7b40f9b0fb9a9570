import DiceWords.Proofs.Term.Refusal
import Mathlib.Data.List.DropRight

/-! # Dice counts of one digit

Whether each dice count that is written in a text has one digit can be seen from the text alone,
with no term looked for: each run of digits in front of a die letter is a single digit
(`SingleDigitCounts`), that is, no two digits stand in front of a die letter
(`singleDigitCounts_iff`). In such a text the option for dice counts of one digit changes no term
(`Term.take?_singleDigit`). -/

namespace DiceWords

open Text (Numeral)

/-- Each run of digits in front of a die letter, taken as long as it is, has one digit. -/
def SingleDigitCounts (text : List Char) : Prop :=
  ∀ (before digits : List Char) (die : Die) (after : List Char),
    text = before ++ (digits ++ die.letter :: after) → Numeral digits →
      (∀ c ∈ before.getLast?, c.isDigit = false) → digits.length = 1

/-! ## Two digits in front of a letter -/

/-- Whether two digits stand in front of a die letter anywhere in a text. -/
def crowded : List Char → Bool
  | first :: second :: third :: rest =>
    (first.isDigit && second.isDigit && (Die.ofLetter? third).isSome) ||
      crowded (second :: third :: rest)
  | _ => false

/-- Two digits in front of a letter are still there behind another character. -/
theorem crowded_cons {c : Char} {text : List Char} (behind : crowded text = true) :
    crowded (c :: text) = true := by
  match text with
  | [] => exact behind
  | [_] => exact absurd behind Bool.false_ne_true
  | second :: third :: rest => rw [crowded, behind, Bool.or_true]

/-- Two digits in front of a letter are still there behind any text. -/
theorem crowded_append (before : List Char) {text : List Char} (behind : crowded text = true) :
    crowded (before ++ text) = true := by
  induction before with
  | nil => exact behind
  | cons c before ih => exact crowded_cons ih

/-- Where a text is crowded, two digits stand in front of a letter. -/
theorem exists_of_crowded {text : List Char} (crowds : crowded text = true) :
    ∃ (before : List Char) (first second : Char) (die : Die) (after : List Char),
      text = before ++ (first :: second :: die.letter :: after) ∧ first.isDigit ∧
        second.isDigit := by
  fun_induction crowded text with
  | case1 first second third rest ih =>
      rcases Bool.or_eq_true_iff.mp crowds with here | behind
      · simp only [Bool.and_eq_true] at here
        obtain ⟨⟨digit, digitToo⟩, letter⟩ := here
        obtain ⟨die, named⟩ := Option.isSome_iff_exists.mp letter
        rw [Die.ofLetter?_eq_some named]
        exact ⟨[], first, second, die, rest, rfl, digit, digitToo⟩
      · obtain ⟨before, one, other, die, after, whole, digits⟩ := ih behind
        exact ⟨first :: before, one, other, die, after, by rw [whole, List.cons_append], digits⟩
  | case2 => exact absurd crowds Bool.false_ne_true

/-- What is left when the digits at the end of a text are taken off does not end with a digit. -/
theorem isDigit_getLast?_rdropWhile (text : List Char) :
    ∀ c ∈ (text.rdropWhile Char.isDigit).getLast?, c.isDigit = false := by
  intro c last
  obtain ⟨nonempty, rfl⟩ := List.mem_getLast?_eq_getLast last
  exact Bool.eq_false_iff.mpr (List.rdropWhile_last_not Char.isDigit text nonempty)

/-- **Which texts have dice counts of one digit only.** A run of two digits or more ends with two
digits in front of the letter, and two digits in front of a letter belong to such a run. -/
theorem singleDigitCounts_iff {text : List Char} :
    SingleDigitCounts text ↔ crowded text = false := by
  constructor
  · intro counts
    by_contra crowds
    rw [Bool.not_eq_false] at crowds
    obtain ⟨before, first, second, die, after, rfl, digit, digitToo⟩ := exists_of_crowded crowds
    let run := before.rtakeWhile Char.isDigit ++ [first, second]
    have numeral : Numeral run := by
      refine ⟨by simp [run], List.forall_mem_append.mpr ⟨?_, ?_⟩⟩
      · exact fun c member => List.mem_rtakeWhile_imp member
      · exact List.forall_mem_cons.mpr ⟨digit, List.forall_mem_singleton.mpr digitToo⟩
    have whole : before ++ (first :: second :: die.letter :: after) =
        before.rdropWhile Char.isDigit ++ (run ++ die.letter :: after) := by
      simp only [run, List.append_assoc, List.cons_append, List.nil_append]
      rw [← List.append_assoc, List.rdropWhile_append_rtakeWhile]
    have one := counts _ run die after whole numeral (isDigit_getLast?_rdropWhile before)
    simp [run] at one
  · intro spaced before digits die after whole numeral _
    by_contra several
    rcases List.eq_nil_or_concat' digits with rfl | ⟨inFront, second, rfl⟩
    · exact numeral.nonempty rfl
    · rcases List.eq_nil_or_concat' inFront with rfl | ⟨inFront, first, rfl⟩
      · exact several rfl
      · have here : crowded (first :: second :: die.letter :: after) = true := by
          have digit := numeral.isDigit first (by simp)
          have digitToo := numeral.isDigit second (by simp)
          simp [crowded, digit, digitToo]
        have crowds := crowded_append (before ++ inFront) here
        rw [whole] at spaced
        simp only [List.append_assoc, List.cons_append, List.nil_append] at spaced crowds
        rw [spaced] at crowds
        exact Bool.false_ne_true crowds

instance (text : List Char) : Decidable (SingleDigitCounts text) :=
  decidable_of_iff _ singleDigitCounts_iff.symm

/-- A text behind another one has dice counts of one digit when the whole has. -/
theorem SingleDigitCounts.of_append {before text : List Char}
    (counts : SingleDigitCounts (before ++ text)) : SingleDigitCounts text := by
  rw [singleDigitCounts_iff] at counts ⊢
  by_contra crowds
  rw [Bool.not_eq_false] at crowds
  rw [crowded_append before crowds] at counts
  exact Bool.false_ne_true counts.symm

/-! ## Terms -/

namespace Term

/-- The option for single digits changes nothing where the dice count is one. -/
theorem ofClauses_singleDigit {clauses : Clauses} (one : clauses.amount.length = 1) (limit : Nat) :
    ofClauses { singleDigit := true, maxTerms := limit } clauses =
      ofClauses { singleDigit := false, maxTerms := limit } clauses := by
  have short : (true && decide (1 < clauses.amount.length)) = false := by
    rw [one]
    rfl
  unfold ofClauses
  simp only [short, Bool.false_and]

/-- In a text with dice counts of one digit, the option for them changes no term. -/
theorem take?_singleDigit {text : List Char} (counts : SingleDigitCounts text) (limit : Nat) :
    take? { singleDigit := true, maxTerms := limit } text =
      take? { singleDigit := false, maxTerms := limit } text := by
  rcases found : Clauses.match? text with _ | ⟨clauses, rest⟩
  · rw [take?_of_missing found, take?_of_missing found]
  · obtain ⟨written, numeric, -⟩ := Clauses.match?_eq_some_iff.mp found
    -- the dice count stands at the start of the text or behind `#`
    have one : clauses.amount.length = 1 := by
      refine counts (Clauses.repeatsChars clauses.repeats) clauses.amount clauses.die
        (Clauses.keepChars clauses.keep ++ Clauses.modifierChars clauses.modifier ++ rest) ?_
        numeric.amount ?_
      · rw [written]
        simp [Clauses.chars, Clauses.sourceChars]
      · cases clauses.repeats with
        | none => simp [Clauses.repeatsChars]
        | some digits => simp [Clauses.repeatsChars]
    rw [take?_of_found found, take?_of_found found, ofClauses_singleDigit one]

end Term

end DiceWords
