import DiceWords.Proofs.Query.Draws
import DiceWords.Proofs.Result.Decoding

/-! # Results are read back from their text

The query stands in code quotes at the start of a text, and no expression is written with a
backtick, so the query is read back first, and with it the expression. What is left is the history
of a chain, or for a batch one line for each outcome, all of them with the same source. Either gives
back every face and whether it counts (`Result.read_back_from_text`). -/

namespace DiceWords

open Arithmetic (Token Entry tokens_cons tokens_append_cons)

/-! ## Code quotes -/

/-- A sign is no backtick. -/
theorem Sign.backtick_ne_char (sign : Sign) : '`' ≠ sign.char := by
  cases sign <;> decide

/-- No backtick stands in the history of an outcome, so the next one ends it. -/
theorem Outcome.backtick_not_mem_tokens (outcome : Outcome) : Token.mark '`' ∉ outcome.tokens := by
  have listed := Arithmetic.mark_not_mem_listed (c := '`') (by decide) (by decide) (by decide)
    outcome.entries
  unfold Outcome.tokens
  cases outcome.modifier <;> simp [listed, modifierTokens, Sign.backtick_ne_char]

/-- No backtick stands in the history of a chain. -/
theorem Chain.backtick_not_mem_tokens (outcomes : List Outcome) :
    Token.mark '`' ∉ tokens outcomes := by
  have part (alone : Bool) (outcome : Outcome) : Token.mark '`' ∉ partTokens alone outcome := by
    have inside := outcome.backtick_not_mem_tokens
    unfold partTokens
    split <;> simp [inside]
  cases outcomes with
  | nil => exact List.not_mem_nil
  | cons first rest =>
      have leading : Token.mark '`' ∉ leadingTokens first.sign := by
        cases first.sign <;> simp [leadingTokens]
      simp [tokens, linkTokens, leading, part, Sign.backtick_ne_char]

/-- The tokens of a total behind a history. -/
def Arithmetic.totalTokens (total : Int) : List Token :=
  [.mark '=', .mark '*', .mark '*'] ++ integer total ++ [.mark '*', .mark '*']

/-- How a total is read, together with the marks around it. -/
theorem Arithmetic.tokens_total (total : Int) (rest : List Char) :
    tokens ((" = **" ++ toString total ++ "**").toList ++ rest) =
      totalTokens total ++ tokens rest := by
  have before : " = **".toList = [' ', '=', ' ', '*', '*'] := rfl
  have behind : "**".toList = ['*', '*'] := rfl
  simp only [String.toList_append, before, behind, List.append_assoc, List.cons_append,
    List.nil_append, totalTokens]
  rw [tokens_cons rfl, tokens_cons rfl, tokens_cons rfl, tokens_cons rfl, tokens_cons rfl,
    tokens_toString total rfl, tokens_cons rfl, tokens_cons rfl]
  rfl

/-- How the text of an outcome is read: its source and its history between backticks, then its
total. -/
theorem Outcome.tokens_text (outcome : Outcome) (rest : List Char) :
    Arithmetic.tokens (outcome.text.toList ++ rest) =
      .mark '`' :: (Arithmetic.tokens outcome.source.toList ++ .mark '`' :: .mark '`' ::
        (outcome.tokens ++
          .mark '`' :: (Arithmetic.totalTokens outcome.total ++ Arithmetic.tokens rest))) := by
  have chars : outcome.text.toList ++ rest =
      '`' :: (outcome.source.toList ++ '`' :: ' ' :: '`' :: (outcome.history.toList ++
        '`' :: ((" = **" ++ toString outcome.total ++ "**").toList ++ rest))) := by
    simp [text]
  rw [chars, tokens_cons rfl, tokens_append_cons rfl, tokens_cons rfl, tokens_cons rfl,
    tokens_cons rfl, outcome.tokens_history rfl, tokens_cons rfl, Arithmetic.tokens_total]
  rfl

/-- How the text of a chain is read: its history between backticks, then its total. -/
theorem Chain.tokens_text (outcomes : List Outcome) :
    Arithmetic.tokens (text outcomes).toList =
      .mark '`' :: (tokens outcomes ++
        .mark '`' :: Arithmetic.totalTokens (total outcomes)) := by
  have chars : (text outcomes).toList =
      '`' :: ((history outcomes).toList ++
        '`' :: ((" = **" ++ toString (total outcomes) ++ "**").toList ++ [])) := by
    simp [text]
  rw [chars, tokens_cons rfl, tokens_append_cons rfl, tokens_cons rfl, Arithmetic.tokens_total,
    tokens_history, Arithmetic.tokens_nil, List.append_nil]
  rfl

/-- **The text of a chain tells its outcomes**, as far as a text shows them. -/
theorem Chain.forall₂_alike_of_text {outcomes others : List Outcome}
    (same : Arithmetic.tokens (text outcomes).toList = Arithmetic.tokens (text others).toList) :
    List.Forall₂ Outcome.Alike outcomes others := by
  rw [tokens_text, tokens_text] at same
  obtain ⟨histories, -⟩ := append_cons_inj (backtick_not_mem_tokens outcomes)
    (backtick_not_mem_tokens others) (List.cons.inj same).2
  exact forall₂_alike_of_tokens histories

/-! ## Texts of results -/

namespace Outcome

/-- The lines of a batch. -/
def lines (outcomes : List Outcome) : List Char :=
  outcomes.flatMap fun outcome => '\n' :: outcome.text.toList

/-- Outcomes that are alike have the same faces in the same order. -/
theorem map_entries_of_alike {outcomes others : List Outcome}
    (alike : List.Forall₂ Alike outcomes others) :
    outcomes.map entries = others.map entries := by
  induction alike with
  | nil => rfl
  | cons first _ ih => rw [List.map_cons, List.map_cons, first.entries, ih]

/-- The total is made of what is shown, so it can be told from that. -/
theorem total_eq_of_entries {outcome other : Outcome} (entries : outcome.entries = other.entries)
    (modifier : outcome.modifier = other.modifier) : outcome.total = other.total := by
  rw [total, total, ← sum_entries, ← sum_entries, entries, modifier]

/-- How the lines of a batch are read, one outcome after another. -/
theorem tokens_lines_cons (outcome : Outcome) (others : List Outcome) :
    Arithmetic.tokens (lines (outcome :: others)) =
      .mark '`' :: (Arithmetic.tokens outcome.source.toList ++ .mark '`' :: .mark '`' ::
        (outcome.tokens ++ .mark '`' ::
          (Arithmetic.totalTokens outcome.total ++ Arithmetic.tokens (lines others)))) := by
  rw [lines, List.flatMap_cons, List.cons_append, tokens_cons rfl, tokens_text]
  rfl

/-- Outcomes of the same sources are read back from their lines. -/
theorem entries_of_lines {outcomes others : List Outcome}
    (sources : outcomes.map source = others.map source)
    (same : Arithmetic.tokens (lines outcomes) = Arithmetic.tokens (lines others)) :
    outcomes.map entries = others.map entries := by
  induction outcomes generalizing others with
  | nil =>
      cases others with
      | nil => rfl
      | cons other others => contradiction
  | cons outcome outcomes ih =>
      cases others with
      | nil => contradiction
      | cons other others =>
          obtain ⟨source, sources⟩ := List.cons.inj sources
          rw [tokens_lines_cons, tokens_lines_cons, source] at same
          have behindSource := List.append_cancel_left (List.cons.inj same).2
          obtain ⟨histories, behind⟩ := append_cons_inj (backtick_not_mem_tokens outcome)
            (backtick_not_mem_tokens other) (List.cons.inj (List.cons.inj behindSource).2).2
          obtain ⟨entries, modifier⟩ := tokens_inj histories
          rw [total_eq_of_entries entries modifier] at behind
          rw [List.map_cons, List.map_cons, entries, ih sources (List.append_cancel_left behind)]

end Outcome

/-- A text begins with the query in code quotes. -/
theorem Result.toList_text (result : Result) :
    result.text.toList =
      '`' :: (result.query.toList ++ '`' ::
        match result.kind with
        | .batch => Outcome.lines result.outcomes
        | .chain => ' ' :: (Chain.text result.outcomes).toList) := by
  have lines (outcomes : List Outcome) (start : String) :
      (outcomes.foldl (fun text outcome => text ++ "\n" ++ outcome.text) start).toList =
        start.toList ++ Outcome.lines outcomes := by
    induction outcomes generalizing start with
    | nil => simp [Outcome.lines]
    | cons outcome others ih => simp [ih, Outcome.lines]
  unfold Result.text
  cases result.kind with
  | batch => simp [lines]
  | chain => simp

/-- A word that is an expression holds no backtick. -/
theorem Query.backtick_not_mem {options : Options} {query : Query} {expression : Expression}
    (parsed : query.parse options = .ok (some expression)) : '`' ∉ query.text.toList := by
  intro member
  exact absurd (Expression.mem_plainChars_of_parse parsed _ member) (by decide)

/-- The outcomes are those of the terms, in order, whatever is drawn. -/
theorem Expression.map_source_resultOf (expression : Expression) (query : String)
    (draws : List Int) :
    (expression.resultOf query draws).outcomes.map Outcome.source =
      expression.links.map fun link => link.term.source := by
  calc (expression.resultOf query draws).outcomes.map Outcome.source
      = ((Link.deal expression.links draws).map Prod.fst).map fun link => link.term.source := by
        rw [resultOf, List.map_map, List.map_map]
        rfl
    _ = expression.links.map fun link => link.term.source := by rw [Link.map_fst_deal]

/-- What an expression shows is read back from its text, however its dice are drawn. -/
theorem Expression.entries_of_text {expression : Expression} {query : String}
    {draws draws' : List Int} (absent : '`' ∉ query.toList)
    (same : (expression.resultOf query draws).text = (expression.resultOf query draws').text) :
    (expression.resultOf query draws).outcomes.map Outcome.entries =
      (expression.resultOf query draws').outcomes.map Outcome.entries := by
  have sources : (expression.resultOf query draws).outcomes.map Outcome.source =
      (expression.resultOf query draws').outcomes.map Outcome.source := by
    rw [map_source_resultOf, map_source_resultOf]
  have chars := congrArg String.toList same
  rw [Result.toList_text, Result.toList_text] at chars
  obtain ⟨-, behind⟩ := append_cons_inj absent absent (List.cons.inj chars).2
  cases expression with
  | batch times term =>
      exact Outcome.entries_of_lines sources (congrArg Arithmetic.tokens behind)
  | chain links =>
      have alike := Chain.forall₂_alike_of_text
        (congrArg Arithmetic.tokens (List.cons.inj behind).2)
      exact Outcome.map_entries_of_alike alike

/-- **Results are read back from their text.** No two chains share a history. And words that are
expressions under the same options, thrown from any sources, show the same text only if the same
was asked for and the same faces came up. -/
theorem Result.read_back_from_text (options : Options) :
    (∀ outcomes others : List Outcome, Chain.history outcomes = Chain.history others →
      List.Forall₂ Outcome.Alike outcomes others) ∧
    ∀ {σ τ : Type} (source : Source σ) (source' : Source τ) (state : σ) (state' : τ)
      (word other : String) (expression expression' : Expression),
      (Query.ofWord word).parse options = .ok (some expression) →
      (Query.ofWord other).parse options = .ok (some expression') →
      ∃ (result result' : Result) (final : σ) (final' : τ),
        ((Query.ofWord word).solve options source).run state = (.ok (some result), final) ∧
        ((Query.ofWord other).solve options source').run state' = (.ok (some result'), final') ∧
        (result.text = result'.text →
          result.query = result'.query ∧ result.kind = result'.kind ∧
            result.outcomes.map Outcome.entries = result'.outcomes.map Outcome.entries) := by
  refine ⟨fun outcomes others same => Chain.forall₂_alike_of_tokens ?_, ?_⟩
  · rw [← Chain.tokens_history, ← Chain.tokens_history, same]
  · intro σ τ source source' state state' word other expression expression' parsed parsed'
    rcases drawn : (expression.throws.mapM source.draw).run state with ⟨draws, final⟩
    rcases drawn' : (expression'.throws.mapM source'.draw).run state' with ⟨draws', final'⟩
    refine ⟨_, _, final, final', Query.run_solve parsed drawn, Query.run_solve parsed' drawn', ?_⟩
    intro same
    have absent := Query.backtick_not_mem parsed
    have chars := congrArg String.toList same
    rw [toList_text, toList_text] at chars
    obtain ⟨sameQuery, -⟩ := append_cons_inj absent (Query.backtick_not_mem parsed')
      (List.cons.inj chars).2
    have asked : (Query.ofWord word).text = (Query.ofWord other).text := String.toList_inj.mp sameQuery
    obtain rfl : expression = expression' := by
      rw [Query.parse, asked] at parsed
      exact Option.some_inj.mp (Except.ok.inj (parsed.symm.trans parsed'))
    rw [← asked] at same ⊢
    exact ⟨rfl, rfl, Expression.entries_of_text absent same⟩

/-- Two words that ask for the same, thrown from two sources. -/
theorem Result.read_back_from_text_two_words :
    let eights : Source Unit := { draw := fun _ => pure 8 }
    let repeating : Source Int := { draw := fun _ drawn => (drawn, drawn) }
    let outcome (source : String) : Outcome := {
      faces := [⟨2, none, false⟩, ⟨2, none, true⟩], modifier := some (-1), source, sign := .plus }
    List.Forall₂ Outcome.Alike [outcome "2fkh1-1"] [outcome "02fkh1-1"] ∧
      ∃ (result result' : Result) (final : Unit) (final' : Int),
        ((Query.ofWord "2f-1").solve {} eights).run () = (.ok (some result), final) ∧
        ((Query.ofWord " 2F-1").solve {} repeating).run 8 = (.ok (some result'), final') ∧
        result.text = "`2f-1` `[2, 2] - 1` = **3**" ∧ result'.text = result.text ∧
        result.query = result'.query ∧ result.kind = result'.kind ∧
        result.outcomes.map Outcome.entries = result'.outcomes.map Outcome.entries := by
  intro eights repeating outcome
  let links : List Link := [⟨.plus, {
    repeats := none, spec := ⟨2, .f, none, some (-1)⟩, source := "2f-1", length := 4 }⟩]
  have parsed : (Query.ofWord "2f-1").parse {} = .ok (some (.chain links)) := by decide +kernel
  have parsed' : (Query.ofWord " 2F-1").parse {} = .ok (some (.chain links)) := by decide +kernel
  have asked : Query.ofWord "2f-1" = ⟨"2f-1"⟩ := by decide +kernel
  have asked' : Query.ofWord " 2F-1" = ⟨"2f-1"⟩ := by decide +kernel
  obtain ⟨histories, texts⟩ := read_back_from_text {}
  obtain ⟨result, result', final, final', ran, ran', same⟩ :=
    texts eights repeating () 8 _ _ _ _ parsed parsed'
  have shown : result = (Expression.chain links).resultOf "2f-1" [8, 8] := by
    have thrown : ((Query.ofWord "2f-1").solve {} eights).run () = _ := Query.run_solve parsed rfl
    cases thrown.symm.trans ran
    rw [asked]
    rfl
  have shown' : result' = (Expression.chain links).resultOf "2f-1" [8, 8] := by
    have thrown : ((Query.ofWord " 2F-1").solve {} repeating).run 8 = _ :=
      Query.run_solve parsed' rfl
    cases thrown.symm.trans ran'
    rw [asked']
    rfl
  have text : result.text = "`2f-1` `[2, 2] - 1` = **3**" := by
    rw [shown]
    decide +kernel
  have text' : result'.text = result.text := by rw [shown, shown']
  exact ⟨histories _ _ rfl, result, result', final, final', ran, ran', text, text', same text'.symm⟩

end DiceWords
