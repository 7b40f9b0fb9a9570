import DiceWords.Proofs.Expression.Sources
import DiceWords.Proofs.Term.Refusal

/-! # What may stand behind an expression

A word that begins with an expression and goes on behind it is read up to the end of the expression,
and then what stands there decides about the whole word. Other text makes a chain plain text and a
batch malformed. A sign without dice behind it makes a chain malformed, and so does a sign between a
chain and a batch, in either order. No part of the word is kept: an error names the whole word
(`Expression.parse_refuses_whole`). -/

namespace DiceWords

namespace Clauses

open Text (startsDigit)

/-! ## Texts that no term goes on with -/

/-- The characters, besides digits, that a term can go on with. -/
def continuing : List Char :=
  ['f', 'r', 't', 'k', '+', '-', '#']

/-- A character that goes on with no term is neither a letter nor a sign. -/
theorem of_not_mem_continuing {c : Char} (other : c ∉ continuing) :
    Die.ofLetter? c = none ∧ Sign.ofChar? c = none ∧ c ≠ 'k' ∧ c ≠ '#' := by
  simp only [continuing, List.mem_cons, List.not_mem_nil, or_false, not_or] at other
  obtain ⟨f, r, t, k, plus, minus, hash⟩ := other
  refine ⟨?_, ?_, k, hash⟩
  · unfold Die.ofLetter?
    split <;> trivial
  · unfold Sign.ofChar?
    split <;> trivial

/-- Any other character ends every term. -/
theorem ends_of_other {c : Char} (solid : c.isDigit = false) (other : c ∉ continuing)
    (rest : List Char) (clauses : Clauses) : clauses.Ends (c :: rest) := by
  obtain ⟨noDie, noSign, noKeep, noHash⟩ := of_not_mem_continuing other
  have alone : continuesTerm (c :: rest) = false := by
    simp only [continuesTerm, noDie, Option.isSome_none, Bool.or_false, beq_eq_false_iff_ne]
    exact noHash
  have unsided : takeSide? (c :: rest) = none := by
    unfold takeSide?
    split <;> simp_all
  have unkept : (takeKeep (c :: rest)).1 = none := by
    rw [takeKeep, unsided]
  have unmodified : (takeModifier (c :: rest)).1 = none := by
    rw [takeModifier, takeSign?, noSign]
    rfl
  have stops : startsDigit (c :: rest) = false := solid
  exact ends_of_stops stops alone unkept unmodified clauses

/-- A sign without digits behind it ends every term. -/
theorem ends_of_bare_sign (sign : Sign) {rest : List Char} (bare : startsDigit rest = false)
    (clauses : Clauses) : clauses.Ends (sign.char :: rest) := by
  apply ends_of_sign
  unfold takeModifier
  simp only [takeSign?_cons, Text.number?_of_not_startsDigit bare]

/-- No term begins without a digit. -/
theorem match?_of_bare {text : List Char} (bare : startsDigit text = false) :
    match? text = none := by
  have uncounted := Text.number?_of_not_startsDigit bare
  simp only [match?, takeDice?, takeRepeats, uncounted, Option.map_none]

end Clauses

namespace Form

/-- A sign in front of a word of either form leads on to a term. -/
theorem Derives.leads {form : Form} {word : String} (derives : form.Derives word) (sign : Sign) :
    Clauses.Leads (sign.char :: word.toList) := by
  obtain ⟨grammatical, written⟩ := derives
  rw [← written]
  cases form with
  | batch times term => exact ⟨sign, times, '#' :: term.sourceChars, rfl, grammatical.1, rfl⟩
  | chain first rest => exact grammatical.1.leads sign _

end Form

namespace Expression

open Clauses (continuing)

variable {options : Options} {word : String}

/-! ## What is read behind an expression -/

/-- **A chain is read on behind its end**, where the text there begins with nothing that its last
term could take. -/
theorem parse_chain_append {links : List Link}
    (parsed : parse options word = .ok (some (.chain links))) {text : String}
    (ends : ∀ clauses : Clauses, clauses.Ends text.toList) :
    parse options (word ++ text) =
      (links? options (word ++ text) links.length text.toList).map fun found =>
        found.map fun more => .chain (links ++ more) := by
  obtain ⟨first, rest, ⟨grammatical, written⟩, allowed, rfl⟩ := exists_chain_of_parse parsed
  have whole : (Form.chain first rest).chars ++ text.toList = (word ++ text).toList := by
    rw [written, String.toList_append]
  rw [parse_of_chain_append grammatical allowed ends whole, List.length_cons, List.length_map]
  rfl

/-- **Nothing can follow a batch.** -/
theorem parse_batch_append {times : Nat} {term : Term}
    (parsed : parse options word = .ok (some (.batch times term))) {text : String}
    (nonempty : text.toList ≠ []) (ends : ∀ clauses : Clauses, clauses.Ends text.toList) :
    parse options (word ++ text) = .error (.malformed (word ++ text) .repeatInChain) := by
  obtain ⟨digits, clauses, ⟨grammatical, written⟩, allowed, -, -⟩ := exists_batch_of_parse parsed
  have whole : (Form.batch digits clauses).chars ++ text.toList = (word ++ text).toList := by
    rw [written, String.toList_append]
  rw [parse_of_batch_append grammatical allowed ends whole, if_neg (by simpa using nonempty)]

/-- A batch is one term with its repeat count, and nothing behind it. -/
theorem take?_batch {times : Nat} {term : Term}
    (parsed : parse options word = .ok (some (.batch times term))) :
    Term.take? options word.toList = .ok (some (term, [])) ∧ term.repeats = some times := by
  obtain ⟨digits, clauses, ⟨⟨numeral, isTerm⟩, written⟩, ⟨timesFit, fits⟩, rfl, rfl⟩ :=
    exists_batch_of_parse parsed
  have taken := isTerm.take?_repeated fits numeral timesFit (Clauses.ends_nil _)
  rw [Clauses.chars_repeated, List.append_nil] at taken
  rw [← written]
  exact ⟨taken, rfl⟩

/-! ## What cannot stand behind an expression -/

theorem toList_sign_append (sign : Sign) (text : String) :
    (sign.text ++ text).toList = sign.char :: text.toList := by
  rw [String.toList_append, Sign.toList_text, List.singleton_append]

/-- A sign ends each term in front of it. -/
theorem ends_sign_append {form : Form} {other : String} (derives : form.Derives other)
    (sign : Sign) (clauses : Clauses) : clauses.Ends (sign.text ++ other).toList := by
  rw [toList_sign_append]
  exact clauses.ends_of_leads (derives.leads sign)

/-- A character that no term goes on with makes a chain a plain word and a batch malformed. -/
theorem parse_append_of_foreign {other text : String} {links : List Link} {times : Nat} {term : Term}
    (chain : parse options word = .ok (some (.chain links)))
    (batch : parse options other = .ok (some (.batch times term)))
    (foreign : ∃ c ∈ text.toList.head?, c.isDigit = false ∧ c ∉ continuing) :
    parse options (word ++ text) = .ok none ∧
      parse options (other ++ text) = .error (.malformed (other ++ text) .repeatInChain) := by
  obtain ⟨c, first, solid, foreign⟩ := foreign
  obtain ⟨rest, written⟩ : ∃ rest, text.toList = c :: rest := List.head?_eq_some_iff.mp first
  have ends : ∀ clauses : Clauses, clauses.Ends text.toList := by
    rw [written]
    exact Clauses.ends_of_other solid foreign rest
  constructor
  · have unsigned := (Clauses.of_not_mem_continuing foreign).2.1
    rw [parse_chain_append chain ends, written, links?]
    simp only [unsigned]
    rfl
  · have nonempty : text.toList ≠ [] := by
      rw [written]
      exact List.cons_ne_nil c rest
    exact parse_batch_append batch nonempty ends

/-- Behind a sign a term must follow. -/
theorem parse_append_of_bare_sign {links : List Link}
    (chain : parse options word = .ok (some (.chain links))) (sign : Sign) {text : String}
    (bare : ∀ c ∈ text.toList.head?, c.isDigit = false) :
    parse options (word ++ (sign.text ++ text)) =
      .error (.malformed (word ++ (sign.text ++ text))
        (if options.maxTerms ≤ links.length then .tooManyTerms else .missingDice)) := by
  have undigited := Text.startsDigit_eq_false_iff.mpr bare
  have ends : ∀ clauses : Clauses, clauses.Ends (sign.text ++ text).toList := by
    rw [toList_sign_append]
    exact Clauses.ends_of_bare_sign sign undigited
  have missing : Term.take? options text.toList = .ok none :=
    Term.take?_of_missing (Clauses.match?_of_bare undigited)
  rw [parse_chain_append chain ends, toList_sign_append, links?_sign, missing]
  split <;> rfl

/-- A batch is no term of a chain. -/
theorem parse_append_of_sign_batch {other : String} {links : List Link} {times : Nat} {term : Term}
    (chain : parse options word = .ok (some (.chain links)))
    (batch : parse options other = .ok (some (.batch times term))) (sign : Sign) :
    parse options (word ++ (sign.text ++ other)) =
      .error (.malformed (word ++ (sign.text ++ other))
        (if options.maxTerms ≤ links.length then .tooManyTerms else .repeatInChain)) := by
  obtain ⟨taken, repeated⟩ := take?_batch batch
  obtain ⟨digits, clauses, derives, -, -, -⟩ := exists_batch_of_parse batch
  rw [parse_chain_append chain (ends_sign_append derives sign), toList_sign_append, links?_sign,
    taken]
  simp only [repeated, Option.isSome_some, if_true]
  split <;> rfl

/-- A batch stands alone. -/
theorem parse_append_of_sign_chain {other : String} {links : List Link} {times : Nat} {term : Term}
    (chain : parse options word = .ok (some (.chain links)))
    (batch : parse options other = .ok (some (.batch times term))) (sign : Sign) :
    parse options (other ++ (sign.text ++ word)) =
      .error (.malformed (other ++ (sign.text ++ word)) .repeatInChain) := by
  obtain ⟨first, rest, derives, -, -⟩ := exists_chain_of_parse chain
  have nonempty : (sign.text ++ word).toList ≠ [] := by
    rw [toList_sign_append]
    exact List.cons_ne_nil _ _
  exact parse_batch_append batch nonempty (ends_sign_append derives sign)

/-- **Malformed combinations are rejected whole.** Behind a chain, a text that begins with a
character that no term goes on with makes the word plain, and behind a batch it makes it malformed.
A chain with a sign behind it that no digit follows is malformed, and so are a chain and a batch
with a sign between them. The error names the whole word. -/
theorem parse_refuses_whole {other : String} {links : List Link} {times : Nat} {term : Term}
    (chain : parse options word = .ok (some (.chain links)))
    (batch : parse options other = .ok (some (.batch times term))) (sign : Sign) :
    (∀ text : String, (∃ c ∈ text.toList.head?, c.isDigit = false ∧ c ∉ continuing) →
      parse options (word ++ text) = .ok none ∧
      parse options (other ++ text) = .error (.malformed (other ++ text) .repeatInChain)) ∧
    (∀ text : String, (∀ c ∈ text.toList.head?, c.isDigit = false) →
      parse options (word ++ sign.text ++ text) =
        .error (.malformed (word ++ sign.text ++ text)
          (if options.maxTerms ≤ links.length then .tooManyTerms else .missingDice))) ∧
    parse options (word ++ sign.text ++ other) =
      .error (.malformed (word ++ sign.text ++ other)
        (if options.maxTerms ≤ links.length then .tooManyTerms else .repeatInChain)) ∧
    parse options (other ++ sign.text ++ word) =
      .error (.malformed (other ++ sign.text ++ word) .repeatInChain) := by
  simp only [String.append_assoc]
  refine ⟨?_, ?_, ?_, ?_⟩
  · exact fun text foreign => parse_append_of_foreign chain batch foreign
  · exact fun text bare => parse_append_of_bare_sign chain sign bare
  · exact parse_append_of_sign_batch chain batch sign
  · exact parse_append_of_sign_chain chain batch sign

/-- `2f+3` and `3#4tkh2` with an emoji behind them, with a sign behind the chain, and with a sign
between them. -/
theorem parse_refuses_whole_two_words :
    let first : Term := {
      repeats := none, spec := ⟨2, .f, none, some 3⟩, source := "2f+3", length := 4 }
    let second : Term := {
      repeats := some 3, spec := ⟨4, .t, some ⟨.high, 2⟩, none⟩, source := "4tkh2", length := 7 }
    parse {} "2f+3" = .ok (some (.chain [⟨.plus, first⟩])) ∧
    parse {} "3#4tkh2" = .ok (some (.batch 3 second)) ∧
    parse {} "2f+3😀" = .ok none ∧
    parse {} "3#4tkh2😀" = .error (.malformed "3#4tkh2😀" .repeatInChain) ∧
    parse {} "2f+3-" = .error (.malformed "2f+3-" .missingDice) ∧
    parse {} "2f+3-3#4tkh2" = .error (.malformed "2f+3-3#4tkh2" .repeatInChain) ∧
    parse {} "3#4tkh2-2f+3" = .error (.malformed "3#4tkh2-2f+3" .repeatInChain) := by
  intro first second
  have chain : parse {} "2f+3" = .ok (some (.chain [⟨.plus, first⟩])) := by decide +kernel
  have batch : parse {} "3#4tkh2" = .ok (some (.batch 3 second)) := by decide +kernel
  obtain ⟨behind, signed, between, reversed⟩ := parse_refuses_whole chain batch .minus
  obtain ⟨plain, malformed⟩ := behind "😀" ⟨'😀', rfl, rfl, by decide⟩
  have trailing := signed "" fun c member => nomatch member
  exact ⟨chain, batch, plain, malformed, trailing, between, reversed⟩

end Expression

end DiceWords
