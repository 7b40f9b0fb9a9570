import DiceWords.Proofs.Expression.Form
import Mathlib.Computability.Language

/-! # The grammar of expressions

The two forms of an expression spell out a regular language: with `D` for numerals, a term is
`D (f|r|t) [(kh|kl) D] [(+|-) D]`, a batch is `D # T` and a chain is `T ((+|-) T)*`. A word belongs
to the language exactly when it has a form (`mem_chain_iff`, `mem_batch_iff`). -/

namespace DiceWords.Grammar

open Computability
open Text (Numeral)

/-- `D`, a run of ASCII digits that is not empty. -/
def numeral : Language Char := {word | Numeral word}

/-- The letter of a die. -/
def letter : Language Char := {['f'], ['r'], ['t']}

/-- The letters of a keep clause. -/
def side : Language Char := {['k', 'h'], ['k', 'l']}

def sign : Language Char := {['+'], ['-']}

/-- `T`, one term: `D (f|r|t) [(kh|kl) D] [(+|-) D]`. -/
def term : Language Char := numeral * letter * (1 + side * numeral) * (1 + sign * numeral)

/-- Terms joined by signs: `T ((+|-) T)*`. -/
def chain : Language Char := term * (sign * term)∗

/-- One repeated term: `D # T`. -/
def batch : Language Char := numeral * {['#']} * term

/-! ## Clauses -/

/-- The letters are those that name the dice. -/
theorem mem_letter_iff {word : List Char} : word ∈ letter ↔ ∃ die : Die, [die.letter] = word := by
  constructor
  · rintro (rfl | rfl | rfl)
    · exact ⟨.f, rfl⟩
    · exact ⟨.r, rfl⟩
    · exact ⟨.t, rfl⟩
  · rintro ⟨die, rfl⟩
    cases die
    · exact .inl rfl
    · exact .inr (.inl rfl)
    · exact .inr (.inr rfl)

/-- The letters of a keep clause are those of its two ends. -/
theorem mem_side_iff {word : List Char} :
    word ∈ side ↔ ∃ side : Keep.Side, side.letters.toList = word := by
  constructor
  · rintro (rfl | rfl)
    · exact ⟨.high, rfl⟩
    · exact ⟨.low, rfl⟩
  · rintro ⟨side, rfl⟩
    cases side
    · exact .inl rfl
    · exact .inr rfl

/-- The signs are the two characters for them. -/
theorem mem_sign_iff {word : List Char} : word ∈ sign ↔ ∃ sign : Sign, [sign.char] = word := by
  constructor
  · rintro (rfl | rfl)
    · exact ⟨.plus, rfl⟩
    · exact ⟨.minus, rfl⟩
  · rintro ⟨sign, rfl⟩
    cases sign
    · exact .inl rfl
    · exact .inr rfl

/-- An optional clause, written with a name in front of its numeral. -/
theorem mem_optional_iff {α : Type} {names : Language Char} {name : α → List Char}
    {chars : Option (α × List Char) → List Char}
    (named : ∀ {word : List Char}, word ∈ names ↔ ∃ a, name a = word) (absent : chars none = [])
    (present : ∀ a digits, chars (some (a, digits)) = name a ++ digits) {word : List Char} :
    word ∈ 1 + names * numeral ↔
      ∃ clause, (∀ part ∈ clause, Numeral part.2) ∧ chars clause = word := by
  rw [Language.mem_add, Language.mem_one, Language.mem_mul]
  constructor
  · rintro (rfl | ⟨_, listed, digits, isNumeral, rfl⟩)
    · exact ⟨none, by simp, absent⟩
    · obtain ⟨a, rfl⟩ := named.mp listed
      have read : Numeral digits := isNumeral
      exact ⟨some (a, digits), by simpa using read, present a digits⟩
  · rintro ⟨_ | ⟨a, digits⟩, numerals, rfl⟩
    · exact .inl absent
    · exact .inr ⟨_, named.mpr ⟨a, rfl⟩, digits, numerals _ rfl, (present a digits).symm⟩

/-- The words of an optional keep clause are what such clauses are written as. -/
theorem mem_keep_iff {word : List Char} :
    word ∈ 1 + side * numeral ↔
      ∃ keep, (∀ clause ∈ keep, Numeral clause.2) ∧ Clauses.keepChars keep = word :=
  mem_optional_iff mem_side_iff rfl fun _ _ => rfl

/-- The words of an optional modifier are what modifiers are written as. -/
theorem mem_modifier_iff {word : List Char} :
    word ∈ 1 + sign * numeral ↔
      ∃ modifier, (∀ clause ∈ modifier, Numeral clause.2) ∧
        Clauses.modifierChars modifier = word :=
  mem_optional_iff mem_sign_iff rfl fun _ _ => rfl

/-! ## Terms and words -/

/-- **The words for a term are what terms are written as.** -/
theorem mem_term_iff {word : List Char} :
    word ∈ term ↔ ∃ clauses : Clauses, clauses.IsTerm ∧ clauses.sourceChars = word := by
  simp only [term, Language.mem_mul, mem_letter_iff, mem_keep_iff, mem_modifier_iff]
  constructor
  · rintro ⟨_, ⟨_, ⟨amount, isNumeral, _, ⟨die, rfl⟩, rfl⟩, _, ⟨keep, keepNumeral, rfl⟩, rfl⟩, _,
      ⟨modifier, modifierNumeral, rfl⟩, rfl⟩
    refine ⟨⟨none, amount, die, keep, modifier⟩, ⟨⟨by simp, isNumeral, keepNumeral,
      modifierNumeral⟩, rfl⟩, ?_⟩
    simp [Clauses.sourceChars]
  · rintro ⟨clauses, isTerm, rfl⟩
    refine ⟨_, ⟨_, ⟨clauses.amount, isTerm.amount, _, ⟨clauses.die, rfl⟩, rfl⟩, _,
      ⟨clauses.keep, isTerm.keep, rfl⟩, rfl⟩, _, ⟨clauses.modifier, isTerm.modifier, rfl⟩, ?_⟩
    simp [Clauses.sourceChars]

/-- The words for a batch are those that have its form. -/
theorem mem_batch_iff {word : String} :
    word.toList ∈ batch ↔ ∃ times clauses, (Form.batch times clauses).Derives word := by
  simp only [batch, Language.mem_mul, mem_term_iff]
  constructor
  · rintro ⟨_, ⟨times, isNumeral, _, rfl, rfl⟩, _, ⟨clauses, isTerm, rfl⟩, written⟩
    refine ⟨times, clauses, ⟨isNumeral, isTerm⟩, ?_⟩
    rw [← written]
    simp [Form.chars]
  · rintro ⟨times, clauses, ⟨isNumeral, isTerm⟩, written⟩
    refine ⟨_, ⟨times, isNumeral, _, rfl, rfl⟩, _, ⟨clauses, isTerm, rfl⟩, ?_⟩
    rw [← written]
    simp [Form.chars]

/-- The words for signed terms are what these are written as, one behind another. -/
theorem mem_signed_iff {text : List Char} :
    text ∈ (sign * term)∗ ↔
      ∃ rest : List (Sign × Clauses), (∀ part ∈ rest, part.2.IsTerm) ∧
        Form.signedChars rest = text := by
  rw [Language.mem_kstar]
  constructor
  · rintro ⟨parts, rfl, each⟩
    induction parts with
    | nil => exact ⟨[], by simp, rfl⟩
    | cons part parts ih =>
        obtain ⟨first, others⟩ := List.forall_mem_cons.mp each
        obtain ⟨_, signed, _, written, rfl⟩ := Language.mem_mul.mp first
        obtain ⟨sign, rfl⟩ := mem_sign_iff.mp signed
        obtain ⟨clauses, isTerm, rfl⟩ := mem_term_iff.mp written
        obtain ⟨rest, terms, flat⟩ := ih others
        refine ⟨(sign, clauses) :: rest, List.forall_mem_cons.mpr ⟨isTerm, terms⟩, ?_⟩
        rw [Form.signedChars_cons, flat]
        simp
  · rintro ⟨rest, terms, rfl⟩
    refine ⟨rest.map fun part => part.1.char :: part.2.sourceChars, rfl, ?_⟩
    refine List.forall_mem_map.mpr fun part listed => Language.mem_mul.mpr ?_
    exact ⟨_, mem_sign_iff.mpr ⟨part.1, rfl⟩, _, mem_term_iff.mpr ⟨part.2, terms part listed, rfl⟩,
      rfl⟩

/-- The words for a chain are those that have its form. -/
theorem mem_chain_iff {word : String} :
    word.toList ∈ chain ↔ ∃ first rest, (Form.chain first rest).Derives word := by
  simp only [chain, Language.mem_mul, mem_term_iff, mem_signed_iff]
  constructor
  · rintro ⟨_, ⟨first, isTerm, rfl⟩, _, ⟨rest, terms, rfl⟩, written⟩
    exact ⟨first, rest, ⟨isTerm, terms⟩, written⟩
  · rintro ⟨first, rest, ⟨isTerm, terms⟩, written⟩
    exact ⟨_, ⟨first, isTerm, rfl⟩, _, ⟨rest, terms, rfl⟩, written⟩

end DiceWords.Grammar
