import DiceWords.Proofs.Expression.Reading

/-! # The sources of an expression

Every term of an expression keeps the text it was read from. Put together again, with the signs
between them, the sources of a chain are the word, and each of them is read as the same term when
it stands alone, although the term was found in front of other text
(`Expression.sources_of_parse`). -/

namespace DiceWords

open Text (Numeral value)

namespace Sign

@[simp] theorem toList_text (sign : Sign) : sign.text.toList = [sign.char] := by
  cases sign <;> rfl

end Sign

namespace Clauses.IsTerm

variable {options : Options} {clauses : Clauses}

/-- A single term is as long as its source. -/
theorem length_term (isTerm : clauses.IsTerm) :
    clauses.term.length = clauses.term.source.utf8ByteSize := by
  have plain := isTerm.plain
  rw [isTerm.chars_eq] at plain
  change clauses.chars.length = (String.ofList clauses.sourceChars).utf8ByteSize
  rw [Text.utf8ByteSize_ofList_of_plain plain, isTerm.chars_eq]

/-- **The source of a term is read as this term again.** -/
theorem atStart_source (isTerm : clauses.IsTerm) (allowed : clauses.Allowed options) :
    Term.atStart options clauses.term.source = .ok (some clauses.term) := by
  have taken := isTerm.take?_sourceChars allowed clauses.ends_nil
  rw [List.append_nil] at taken
  change Term.atStart options (String.ofList clauses.sourceChars) = _
  simp only [Term.atStart, String.toList_ofList, taken, Except.map, Option.map_some]

/-- A repeat count changes neither what a term asks for nor its source. -/
theorem term_repeated (isTerm : clauses.IsTerm) (times : List Char) :
    { (clauses.repeated times).term with
      repeats := none
      length := (clauses.repeated times).term.source.utf8ByteSize } = clauses.term := by
  exact (Term.mk.injEq ..).mpr
    ⟨isTerm.repeats_term.symm, rfl, rfl, isTerm.length_term.symm⟩

end Clauses.IsTerm

namespace Form

/-- The signed terms of a chain are the signs and sources of its links. -/
theorem toList_join_links (rest : List (Sign × Clauses)) :
    (String.join ((rest.map link).map fun link => link.sign.text ++ link.term.source)).toList =
      signedChars rest := by
  simp [String.toList_join, signedChars, List.flatMap_map, link, Clauses.term]

/-- A word that has a form is plain, so its bytes are the characters of the form. -/
theorem Derives.utf8ByteSize_eq {form : Form} {word : String} (derives : form.Derives word) :
    word.utf8ByteSize = form.chars.length := by
  rw [← Text.utf8ByteSize_ofList_of_plain (plain_chars derives.grammatical), derives.chars,
    String.ofList_toList]

end Form

/-- **No text is lost, and every source stands on its own.** The sources of a chain with the signs
between them are the word, and the source of each link is read as the very term of the link. A batch
is written as a numeral for its repeat count, `#` and the source of its term, which is read as the
same term without a repeat count. Lengths are sizes in UTF-8. -/
theorem Expression.sources_of_parse {options : Options} {word : String} {expression : Expression}
    (parsed : parse options word = .ok (some expression)) :
    match expression with
    | .chain links => ∃ first rest, links = first :: rest ∧
        word = first.term.source ++
          String.join (rest.map fun link => link.sign.text ++ link.term.source) ∧
        ∀ link ∈ links, link.term.repeats = none ∧
          link.term.length = link.term.source.utf8ByteSize ∧
          Term.atStart options link.term.source = .ok (some link.term)
    | .batch times term => ∃ digits : String, Numeral digits.toList ∧ value digits.toList = times ∧
        word = digits ++ "#" ++ term.source ∧
        term.repeats = some times ∧ term.length = word.utf8ByteSize ∧
        Term.atStart options term.source = .ok (some { term with
          repeats := none
          length := term.source.utf8ByteSize }) := by
  obtain ⟨form, derives, allowed, rfl⟩ := exists_form_of_parse parsed
  have size := derives.utf8ByteSize_eq
  obtain ⟨grammatical, written⟩ := derives
  cases form with
  | batch digits clauses =>
      obtain ⟨numeral, isTerm⟩ := grammatical
      obtain ⟨-, fits⟩ := allowed
      refine ⟨String.ofList digits, by simpa using numeral, by simp, ?_, rfl, ?_, ?_⟩
      · rw [← String.toList_inj, ← written]
        simp [Form.chars, Clauses.term, Clauses.sourceChars, Clauses.repeated]
      · rw [size, Form.chars, ← Clauses.chars_repeated]
        rfl
      · rw [isTerm.term_repeated]
        exact isTerm.atStart_source fits
  | chain first rest =>
      obtain ⟨isTerm, terms⟩ := grammatical
      obtain ⟨-, fits, othersFit⟩ := allowed
      refine ⟨_, _, rfl, ?_, ?_⟩
      · rw [← String.toList_inj, ← written, String.toList_append, Form.toList_join_links]
        simp [Form.chars, Clauses.term]
      · intro link member
        rcases List.mem_cons.mp member with rfl | behind
        · exact ⟨isTerm.repeats_term, isTerm.length_term, isTerm.atStart_source fits⟩
        · obtain ⟨part, listed, rfl⟩ := List.mem_map.mp behind
          have partTerm := terms part listed
          exact ⟨partTerm.repeats_term, partTerm.length_term,
            partTerm.atStart_source (othersFit part listed)⟩

/-- The sources of `2f+3-01r` and `3#4tkh2`, read alone. -/
theorem Expression.sources_of_parse_words :
    (let first : Term := {
      repeats := none, spec := ⟨2, .f, none, some 3⟩, source := "2f+3", length := 4 }
    let second : Term := {
      repeats := none, spec := ⟨1, .r, none, none⟩, source := "01r", length := 3 }
    parse {} "2f+3-01r" = .ok (some (.chain [⟨.plus, first⟩, ⟨.minus, second⟩])) ∧
      Term.atStart {} "2f+3" = .ok (some first) ∧ Term.atStart {} "01r" = .ok (some second)) ∧
    (let term : Term := {
      repeats := some 3, spec := ⟨4, .t, some ⟨.high, 2⟩, none⟩, source := "4tkh2", length := 7 }
    parse {} "3#4tkh2" = .ok (some (.batch 3 term)) ∧
      Term.atStart {} "4tkh2" = .ok (some { term with repeats := none, length := 5 })) := by
  refine ⟨?_, ?_⟩
  · intro first second
    have parsed : parse {} "2f+3-01r" =
        .ok (some (.chain [⟨.plus, first⟩, ⟨.minus, second⟩])) := by decide +kernel
    obtain ⟨_, _, -, -, alone⟩ := sources_of_parse parsed
    exact ⟨parsed, (alone ⟨.plus, first⟩ (by simp)).2.2, (alone ⟨.minus, second⟩ (by simp)).2.2⟩
  · intro term
    have parsed : parse {} "3#4tkh2" = .ok (some (.batch 3 term)) := by decide +kernel
    obtain ⟨_, -, -, -, -, -, alone⟩ := sources_of_parse parsed
    exact ⟨parsed, alone⟩

end DiceWords
