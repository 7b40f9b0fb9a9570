import DiceWords.Proofs.Expression.Positions
import DiceWords.Query

/-! # Reading is safe

Whatever the word is, reading it by positions comes to an answer, cuts the word between characters
only and blames nothing but what is written in the word (`Expression.parse_safe`). -/

namespace DiceWords

open Text (slice?)

/-- A query is refused for nothing but its word, before any die is thrown. -/
theorem Query.mendable_solve {σ : Type} (options : Options) (source : Source σ) (query : Query)
    (state : σ) : Mendable ((query.solve options source).run state).1 := by
  delta solve
  split
  · next error parsed => exact mendable_error (Expression.mendable_parse options _ error parsed)
  · exact mendable_ok none
  · exact mendable_ok _

namespace Expression

/-- **The reading is safe.** Read by positions, a word gives the answer that it gives otherwise, and
no round goes astray. Every round is safe, and every term fits the text that it is looked for in. A
number that is read for a modifier can be negated. No error is about an unknown die: every error is
the writer's, also when the word is asked for and dice are thrown. -/
theorem parse_safe (options : Options) (word : String) :
    parseByPositions options word = some (parse options word) ∧
    (∀ reading, Reading.Reached options word reading → reading.Safe options word) ∧
    (∀ term, Term.atStart options word = .ok (some term) → term.Fits word) ∧
    (∀ (digits : List Char) (n : Nat), Term.number maxTotal digits = .ok n →
      minTotal ≤ -(n : Int) ∧ -(n : Int) ≤ maxTotal) ∧
    (∀ text, Term.atStart options word ≠ .error (.unknownDie text) ∧
      parse options word ≠ .error (.unknownDie text)) ∧
    Mendable (Term.atStart options word) ∧ Mendable (parse options word) ∧
    ∀ (σ : Type) (source : Source σ) (state : σ),
      Mendable (((Query.ofWord word).solve options source).run state).1 := by
  have termMendable := Term.mendable_atStart options word
  have wordMendable := mendable_parse options word
  refine ⟨parseByPositions_eq options word, fun reading reached => reached.safe,
    fun term found => Term.fits_of_atStart found, fun digits n => Term.neg_mem_range_of_number,
    fun text => ⟨?_, ?_⟩, termMendable, wordMendable,
    fun _ source state => Query.mendable_solve options source _ state⟩
  · intro failed
    exact absurd (termMendable _ failed) Bool.false_ne_true
  · intro failed
    exact absurd (wordMendable _ failed) Bool.false_ne_true

/-- Two rounds in front of a character of four bytes, and a repeated term in front of one of two. -/
theorem parse_safe_beside_wide_characters :
    (let first : Reading := Reading.start {
      repeats := none, spec := ⟨2, .f, none, none⟩, source := "2f", length := 2 }
    let second := first.join .plus {
      repeats := none, spec := ⟨1, .r, none, some (-3)⟩, source := "1r-3", length := 4 }
    Reading.Reached {} "2f+1r-3😀" first ∧ first.round {} "2f+1r-3😀" = .goesOn second ∧
      first.position + 3 ≤ second.position ∧ Reading.Reached {} "2f+1r-3😀" second ∧
      String.Pos.Raw.IsValid "2f+1r-3😀" ⟨second.position⟩) ∧
    (let term : Term := {
      repeats := some 3, spec := ⟨2, .t, none, some (-9)⟩, source := "2t-9", length := 6 }
    Term.atStart {} "3#2t-9é" = .ok (some term) ∧
      ∃ start, slice? start 6 "3#2t-9é".toList = some "2t-9".toList) ∧
    (Term.number maxTotal ['0', '9'] = .ok 9 ∧ minTotal ≤ -9) := by
  refine ⟨?_, ?_, ?_⟩
  · intro first second
    have reached : Reading.Reached {} "2f+1r-3😀" first := .start (by decide +kernel) rfl
    have goesOn : first.round {} "2f+1r-3😀" = .goesOn second := by decide +kernel
    have safe := (parse_safe {} "2f+1r-3😀").2.1
    have further := reached.next goesOn
    exact ⟨reached, goesOn, (safe first reached).grows second goesOn, further,
      (safe second further).isValid⟩
  · intro term
    have found : Term.atStart {} "3#2t-9é" = .ok (some term) := by decide +kernel
    exact ⟨found, ((parse_safe {} "3#2t-9é").2.2.1 term found).slice⟩
  · have read : Term.number maxTotal ['0', '9'] = .ok 9 := by decide
    exact ⟨read, ((parse_safe {} "").2.2.2.1 _ _ read).1⟩

end Expression

end DiceWords
