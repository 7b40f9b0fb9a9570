import DiceWords.Proofs.Query.Solve
import DiceWords.Proofs.Text.Spelling

/-! # Which texts ask for dice

Expressions are written with plain characters only, so a text asks for one exactly when it spells
the expression's word: with capitals, with a Kelvin sign for a `k`, and with blanks around it
(`Query.parse_ofWord_iff`). Blanks inside, digits of other scripts and letters that merely look like
those of an expression are never accepted. -/

namespace DiceWords

open Text (Spells plainChars)

namespace Query

/-- A text is looked at as a plain word exactly when it spells that word. -/
theorem ofWord_eq_iff {text word : String} (plain : ∀ c ∈ word.toList, c ∈ plainChars) :
    ofWord text = ⟨word⟩ ↔ Spells text.toList word.toList := by
  rw [← Text.lowercase_trim_eq_iff plain, ofWord, Query.mk.injEq, ← String.toList_inj,
    String.toList_ofList]

/-- **Which texts ask for dice.** A text asks for an expression exactly when it spells a word that
is this expression. The word is what is looked at, it is plain, and looking at it again changes
nothing; so the text is read as the word is. -/
theorem parse_ofWord_iff (options : Options) (text : String) :
    (∀ expression, (ofWord text).parse options = .ok (some expression) ↔
      ∃ word : String, Expression.parse options word = .ok (some expression) ∧
        Spells text.toList word.toList) ∧
    ∀ (word : String) (expression : Expression),
      Expression.parse options word = .ok (some expression) → Spells text.toList word.toList →
        (ofWord text).text = word ∧ (∀ c ∈ word.toList, c ∈ plainChars) ∧
          (ofWord word).text = word ∧
            (ofWord text).parse options = Expression.parse options word := by
  refine ⟨fun expression => ⟨?_, ?_⟩, ?_⟩
  · intro parsed
    have plain := Expression.mem_plainChars_of_parse parsed
    exact ⟨(ofWord text).text, parsed, (ofWord_eq_iff plain).mp rfl⟩
  · rintro ⟨word, parsed, spells⟩
    rw [(ofWord_eq_iff (Expression.mem_plainChars_of_parse parsed)).mpr spells]
    exact parsed
  · intro word expression parsed spells
    have plain := Expression.mem_plainChars_of_parse parsed
    have looked := (ofWord_eq_iff plain).mpr spells
    refine ⟨congrArg Query.text looked, plain, ?_, ?_⟩
    · rw [ofWord_of_parse parsed]
    · rw [looked]
      rfl

/-- The word `3#4tkh2-1` with a Kelvin sign and a capital in it and blanks around it. -/
theorem parse_ofWord_iff_kelvin :
    (∃ expression, Expression.parse {} "3#4tkh2-1" = .ok (some expression)) ∧
      Spells "\u3000 3#4T\u212Ah2-1\t".toList "3#4tkh2-1".toList ∧
      (ofWord "\u3000 3#4T\u212Ah2-1\t").text = "3#4tkh2-1" ∧
      (ofWord "\u3000 3#4T\u212Ah2-1\t").parse {} = Expression.parse {} "3#4tkh2-1" := by
  have parsed : Expression.parse {} "3#4tkh2-1" = .ok (some (.batch 3 {
      repeats := some 3
      spec := ⟨4, .t, some ⟨.high, 2⟩, some (-1)⟩
      source := "4tkh2-1"
      length := 9 })) := by
    decide +kernel
  have spells : Spells "\u3000 3#4T\u212Ah2-1\t".toList "3#4tkh2-1".toList :=
    ⟨['\u3000', ' '], "3#4T\u212Ah2-1".toList, ['\t'], by decide,
      Text.forall_mem_of_all (by decide), Text.forall_mem_of_all (by decide),
      .cons (.itself _) <| .cons (.itself _) <| .cons (.itself _) <| .cons (.capital 't') <|
        .cons .kelvin <| .cons (.itself _) <| .cons (.itself _) <| .cons (.itself _) <|
          .cons (.itself _) .nil⟩
  obtain ⟨looked, -, -, same⟩ := (parse_ofWord_iff {} _).2 _ _ parsed spells
  exact ⟨⟨_, parsed⟩, spells, looked, same⟩

end Query

end DiceWords
