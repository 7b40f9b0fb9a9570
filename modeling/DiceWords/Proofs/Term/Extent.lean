import DiceWords.Proofs.Expression.Reading
import DiceWords.Proofs.Expression.Refusal
import DiceWords.Proofs.Text.Positions

/-! # How far a term reaches

What is read for a term is plain and as long as the term says (`Term.exists_plain_of_take?`). So the
length of a term found at the start of a word is a position in the word, and the source of the term
ends there (`Term.fits_of_atStart`). -/

namespace DiceWords

open Text (Numeral plainChars slice? byteSize)

namespace Sign

/-- A signed number is as large as the number without its sign, at most. -/
theorem neg_le_number_le (sign : Sign) {n bound : Nat} (small : n ≤ bound) :
    -(bound : Int) ≤ sign.number n ∧ sign.number n ≤ bound := by
  cases sign <;> simp only [number] <;> omega

end Sign

namespace Term

variable {options : Options}

/-- A number that a modifier is read from can be negated. -/
theorem neg_mem_range_of_number {digits : List Char} {n : Nat}
    (read : number maxTotal digits = .ok n) : minTotal ≤ -(n : Int) ∧ -(n : Int) ≤ maxTotal := by
  obtain ⟨small, rfl⟩ := number_eq_ok_iff.mp read
  unfold maxTotal at small
  unfold minTotal maxTotal
  omega

/-- The term at the start of a word is the one that is read there, whatever follows it. -/
theorem atStart_eq_ok_some_iff {word : String} {term : Term} :
    atStart options word = .ok (some term) ↔
      ∃ rest, take? options word.toList = .ok (some (term, rest)) := by
  unfold atStart
  rcases take? options word.toList with error | _ | ⟨other, rest⟩ <;> simp [Except.map]

/-- When a term is refused where it is read, so is the term at the start of the word. -/
theorem atStart_of_take?_error {word : String} {error : Error}
    (taken : take? options word.toList = .error error) : atStart options word = .error error := by
  rw [atStart, taken]
  rfl

/-- Where no term is read, none is found. -/
theorem atStart_of_take?_none {word : String} (taken : take? options word.toList = .ok none) :
    atStart options word = .ok none := by
  rw [atStart, taken]
  rfl

/-- What is wrong with the term at the start of a word can be mended. -/
theorem mendable_atStart (options : Options) (word : String) : Mendable (atStart options word) := by
  intro error failed
  rcases taken : take? options word.toList with other | found
  · rw [atStart_of_take?_error taken] at failed
    cases failed
    exact mendable_take? options _ error taken
  · rw [atStart, taken] at failed
    cases failed

/-- What is read for a term is plain and as long as the term says, a digit and a letter at least. -/
theorem exists_plain_of_take? {text rest : List Char} {term : Term}
    (taken : take? options text = .ok (some (term, rest))) :
    ∃ part, text = part ++ rest ∧ (∀ c ∈ part, c ∈ plainChars) ∧ part.length = term.length ∧
      2 ≤ part.length := by
  obtain ⟨clauses, written, numeric, -, -, -, rfl⟩ := take?_eq_ok_some_iff.mp taken
  refine ⟨clauses.chars, written, numeric.plain, rfl, ?_⟩
  have digit := List.length_pos_iff.mpr numeric.amount.nonempty
  simp only [Clauses.chars, Clauses.sourceChars, List.length_append, List.length_cons]
  omega

/-! ## Terms at the start of a word -/

/-- How a term stands at the start of a word: it takes two bytes at least, all of them in the word,
and its source is the part of the word that ends with them. Behind the dice count stands a letter
that is read as its die, and a modifier keeps away from the least number that there is. -/
structure Fits (word : String) (term : Term) : Prop where
  two_le_length : 2 ≤ term.length
  length_le : term.length ≤ word.utf8ByteSize
  slice : ∃ start, slice? start term.length word.toList = some term.source.toList
  letter : ∃ amount letter clauses, term.source = amount ++ letter ++ clauses ∧
    Numeral amount.toList ∧ Die.read letter = .ok term.spec.die
  modifier : ∀ modifier ∈ term.spec.modifier, -(maxTotal : Int) ≤ modifier ∧ modifier ≤ maxTotal

section

variable {word : String} {term : Term} (found : atStart options word = .ok (some term))

include found

/-- A term takes a digit and a letter at least. -/
theorem two_le_length_of_atStart : 2 ≤ term.length := by
  obtain ⟨rest, taken⟩ := atStart_eq_ok_some_iff.mp found
  obtain ⟨part, -, -, size, long⟩ := exists_plain_of_take? taken
  rwa [size] at long

/-- A term ends within the word. -/
theorem length_le_of_atStart : term.length ≤ word.utf8ByteSize := by
  obtain ⟨rest, taken⟩ := atStart_eq_ok_some_iff.mp found
  obtain ⟨part, whole, plain, size, -⟩ := exists_plain_of_take? taken
  rw [← Text.byteSize_toList, whole, Text.byteSize_append, Text.byteSize_of_plain plain, size]
  exact Nat.le_add_right _ _

/-- What is found at the start of a word is written there as its clauses. -/
theorem exists_clauses_of_atStart :
    ∃ (clauses : Clauses) (rest : List Char), word.toList = clauses.chars ++ rest ∧
      clauses.Numeric ∧ clauses.Allowed options ∧ clauses.term = term := by
  obtain ⟨rest, taken⟩ := atStart_eq_ok_some_iff.mp found
  obtain ⟨clauses, written, numeric, -, -, allowed, same⟩ := take?_eq_ok_some_iff.mp taken
  exact ⟨clauses, rest, written, numeric, allowed, same⟩

/-- **The source of a term** is what stands in the word behind the repeat count, up to the end of
the term. -/
theorem slice?_of_atStart :
    ∃ start, slice? start term.length word.toList = some term.source.toList := by
  obtain ⟨clauses, rest, written, numeric, -, rfl⟩ := exists_clauses_of_atStart found
  have source : clauses.term.source.toList = clauses.sourceChars := String.toList_ofList
  refine ⟨byteSize (Clauses.repeatsChars clauses.repeats), Text.slice?_eq_some_iff.mpr
    ⟨Clauses.repeatsChars clauses.repeats, rest, ?_, rfl, ?_⟩⟩
  · rw [written, source, Clauses.chars]
  · rw [source]
    exact Text.byteSize_of_plain numeric.plain

/-- Behind the dice count of a term stands a letter that is read as its die. -/
theorem exists_letter_of_atStart :
    ∃ amount letter clauses, term.source = amount ++ letter ++ clauses ∧ Numeral amount.toList ∧
      Die.read letter = .ok term.spec.die := by
  obtain ⟨clauses, rest, -, numeric, -, rfl⟩ := exists_clauses_of_atStart found
  refine ⟨String.ofList clauses.amount, String.singleton clauses.die.letter,
    String.ofList (Clauses.keepChars clauses.keep ++ Clauses.modifierChars clauses.modifier), ?_, ?_,
    Die.read_letter clauses.die⟩
  · rw [← String.toList_inj]
    simp [Clauses.term, Clauses.sourceChars]
  · rw [String.toList_ofList]
    exact numeric.amount

/-- A modifier can be negated. -/
theorem modifier_mem_range_of_atStart :
    ∀ modifier ∈ term.spec.modifier, -(maxTotal : Int) ≤ modifier ∧ modifier ≤ maxTotal := by
  obtain ⟨clauses, rest, -, -, allowed, rfl⟩ := exists_clauses_of_atStart found
  intro modifier listed
  obtain ⟨clause, written, rfl⟩ := Option.mem_map.mp listed
  exact clause.1.neg_le_number_le (allowed.modifier clause written)

/-- **A term found at the start of a word fits the word.** -/
theorem fits_of_atStart : term.Fits word where
  two_le_length := two_le_length_of_atStart found
  length_le := length_le_of_atStart found
  slice := slice?_of_atStart found
  letter := exists_letter_of_atStart found
  modifier := modifier_mem_range_of_atStart found

end

end Term

end DiceWords
