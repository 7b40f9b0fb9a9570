import DiceWords.Proofs.Query.Draws
import DiceWords.Proofs.Text.Lowercase
import Mathlib.Data.List.Basic

/-! # A batch is its term solved again and again

What stands behind `#` in a batch is a word of its own, and it is a chain of the same term
(`Query.exists_asksFor_of_batch`). Throwing the batch is throwing this chain as often as the batch
says, each time from the source as the last time has left it (`Query.AsksFor.run_solve_replicate`),
and each line of the batch is the text of one of these chains (`Outcome.text_eq_text_single`). -/

namespace DiceWords

open Text (Numeral value)

/-! ## The word behind the repeat count -/

theorem Text.Numeral.hash_not_mem {digits : List Char} (numeral : Numeral digits) :
    '#' ∉ digits :=
  fun member => absurd (numeral.isDigit '#' member) (by decide)

/-- Only a repeat count is written with `#`. -/
theorem Clauses.IsTerm.hash_not_mem {clauses : Clauses} (isTerm : clauses.IsTerm) :
    '#' ∉ clauses.sourceChars := by
  have letter : '#' ≠ clauses.die.letter := by
    cases clauses.die <;> decide
  have keep : '#' ∉ keepChars clauses.keep := by
    rcases written : clauses.keep with _ | ⟨side, run⟩
    · exact List.not_mem_nil
    · have letters : '#' ∉ side.letters.toList := by
        cases side <;> decide
      exact List.not_mem_append letters (isTerm.keep _ written).hash_not_mem
  have modifier : '#' ∉ modifierChars clauses.modifier := by
    rcases written : clauses.modifier with _ | ⟨sign, run⟩
    · exact List.not_mem_nil
    · have mark : '#' ≠ sign.char := by
        cases sign <;> decide
      exact List.not_mem_cons_of_ne_of_not_mem mark (isTerm.modifier _ written).hash_not_mem
  exact List.not_mem_append (List.not_mem_append isTerm.amount.hash_not_mem
    (List.not_mem_cons_of_ne_of_not_mem letter keep)) modifier

/-- A term alone is a chain of one link. -/
theorem Expression.parse_of_term {options : Options} {clauses : Clauses} {word : String}
    (isTerm : clauses.IsTerm) (inRange : clauses.Allowed options)
    (written : clauses.sourceChars = word.toList) :
    parse options word = .ok (some (.chain [⟨.plus, clauses.term⟩])) := by
  have derives : (Form.chain clauses []).Derives word := by
    refine ⟨⟨isTerm, fun part member => absurd member List.not_mem_nil⟩, ?_⟩
    rw [← written]
    exact List.append_nil _
  have allowed : (Form.chain clauses []).Allowed options :=
    ⟨Nat.le_max_left _ _, inRange, fun part member => absurd member List.not_mem_nil⟩
  exact parse_of_derives derives allowed

/-- The result of a chain of one outcome. -/
def Result.single (query : String) (outcome : Outcome) : Result where
  kind := .chain
  query := query
  outcomes := [outcome]

namespace Query

/-- A word with `#` in it is normalised on each side of it. -/
theorem toList_text_ofWord_hash (count body : String) :
    (ofWord (count ++ "#" ++ body)).text.toList =
      Text.lowercase (Text.trimStart count.toList) ++
        '#' :: Text.lowercase (Text.trimEnd body.toList) := by
  have word : (count ++ "#" ++ body).toList = count.toList ++ '#' :: body.toList := by simp
  have solid : Text.isBlank '#' = false := by decide
  rw [ofWord, String.toList_ofList, word, Text.trim_append_cons solid,
    Text.separates_hash.lowercase_append_cons]

/-- A query that is a chain of one term, which asks for the same as another term. -/
structure AsksFor (options : Options) (query : Query) (term bare : Term) : Prop where
  spec : bare.spec = term.spec
  written : bare.source = term.source
  text : bare.source = query.text
  parsed : query.parse options = .ok (some (.chain [⟨.plus, bare⟩]))

/-- **What stands behind `#` in a batch is a word of its own**, which asks for the same term. -/
theorem exists_asksFor_of_batch {options : Options} {count body : String} {times : Nat}
    {term : Term}
    (parsed : (ofWord (count ++ "#" ++ body)).parse options = .ok (some (.batch times term))) :
    (∃ digits : String, Numeral digits.toList ∧ value digits.toList = times ∧
      (ofWord (count ++ "#" ++ body)).text = digits ++ "#" ++ (ofWord body).text) ∧
    ∃ bare : Term, AsksFor options (ofWord body) term bare := by
  obtain ⟨digits, clauses, ⟨⟨numeral, isTerm⟩, written⟩, ⟨-, inRange⟩, rfl, rfl⟩ :=
    Expression.exists_batch_of_parse parsed
  rw [toList_text_ofWord_hash, Form.chars,
    List.append_cons_inj_of_notMem numeral.hash_not_mem isTerm.hash_not_mem] at written
  obtain ⟨front, -, behind⟩ := written
  -- blanks in front of the term would have stayed
  have solid : ∀ c ∈ Text.lowercase (Text.trimEnd body.toList), Text.isBlank c = false := by
    intro c member
    rw [← behind, ← isTerm.chars_eq] at member
    exact Text.isBlank_of_mem_plainChars c (isTerm.plain c member)
  have text : (ofWord body).text = String.ofList clauses.sourceChars := by
    rw [ofWord, Text.trim_eq_trimStart_trimEnd, Text.trimStart_eq_self_of_lowercase solid, behind]
  refine ⟨⟨String.ofList digits, ?_, ?_, ?_⟩, clauses.term, ⟨rfl, rfl, text.symm, ?_⟩⟩
  · rwa [String.toList_ofList]
  · rw [String.toList_ofList]
  · rw [← String.toList_inj, toList_text_ofWord_hash, text, ← front, ← behind]
    simp
  · apply Expression.parse_of_term isTerm inRange
    rw [text, String.toList_ofList]

/-! ## Solving again and again -/

variable {σ : Type} {options : Options} {query : Query} {term bare : Term}

/-- Solving it throws the term. -/
theorem AsksFor.run_solve (asks : AsksFor options query term bare) (source : Source σ)
    (state : σ) :
    (query.solve options source).run state =
      let rolled := (term.roll source .plus).run state
      (.ok (some (.single query.text rolled.1)), rolled.2) := by
  have same : term.roll source .plus = bare.roll source .plus := by
    rw [Term.roll, Term.roll, asks.spec, asks.written]
  rw [same]
  delta solve
  rw [asks.parsed]
  rfl

/-- Solving it again and again throws the term again and again. -/
theorem AsksFor.run_solve_replicate (asks : AsksFor options query term bare) (source : Source σ)
    (times : Nat) (state : σ) :
    ((List.replicate times query).mapM (solve options source)).run state =
      let rolled := (rollLinks source (List.replicate times ⟨.plus, term⟩)).run state
      (rolled.1.map fun outcome => .ok (some (.single query.text outcome)), rolled.2) := by
  induction times generalizing state with
  | zero => rfl
  | succ times ih =>
      rcases first : (term.roll source .plus).run state with ⟨outcome, between⟩
      rcases others : (rollLinks source (List.replicate times ⟨.plus, term⟩)).run between with
        ⟨behind, final⟩
      have single := asks.run_solve source state
      have rest := ih between
      rw [rollLinks] at others ⊢
      simp only [first] at single
      simp only [rollLinks, others] at rest
      simp only [List.replicate_succ, run_mapM_cons, single, rest, first, others, List.map_cons]

end Query

/-! ## The text of a batch -/

/-- One outcome makes up its own total. -/
theorem Chain.total_singleton {outcome : Outcome} (plus : outcome.sign = .plus) :
    Chain.total [outcome] = outcome.total := by
  obtain ⟨low, high⟩ := saturate_mem_range (outcome.sum + outcome.modifier.getD 0)
  rw [total, List.foldl_cons, List.foldl_nil, Int.zero_add, Outcome.signedTotal, plus]
  exact saturate_eq_self low high

theorem Chain.history_singleton {outcome : Outcome} (plus : outcome.sign = .plus) :
    Chain.history [outcome] = outcome.history := by
  rw [history, List.foldl_nil, plus]
  exact String.empty_append

/-- The line of an outcome is the text of a chain of this outcome. -/
theorem Outcome.text_eq_text_single {outcome : Outcome} {query : String}
    (plus : outcome.sign = .plus) (source : outcome.source = query) :
    outcome.text = (Result.single query outcome).text := by
  have shown : (Result.single query outcome).text =
      "`" ++ query ++ "` " ++ Chain.text [outcome] := rfl
  rw [shown, Chain.text, Chain.history_singleton plus, Chain.total_singleton plus, text, source,
    ← String.toList_inj]
  simp

/-- The text of a batch of such outcomes. -/
theorem Result.text_of_batch {outcomes : List Outcome} {bare : String} (query : String)
    (alike : ∀ outcome ∈ outcomes, outcome.sign = .plus ∧ outcome.source = bare) :
    (Result.mk .batch query outcomes).text =
      "`" ++ query ++ "`" ++
        String.join (outcomes.map fun outcome => "\n" ++ (Result.single bare outcome).text) := by
  have lines (start : String) :
      outcomes.foldl (fun text outcome => text ++ "\n" ++ outcome.text) start =
        start ++ String.join
          (outcomes.map fun outcome => "\n" ++ (Result.single bare outcome).text) := by
    induction outcomes generalizing start with
    | nil => simp
    | cons outcome others ih =>
        obtain ⟨plus, source⟩ := alike outcome List.mem_cons_self
        have behind := ih fun other member => alike other (List.mem_cons_of_mem _ member)
        rw [List.foldl_cons, behind, Outcome.text_eq_text_single plus source, ← String.toList_inj]
        simp
  exact lines _

/-- The outcomes of repeated throws are all of the same term. -/
theorem Link.sign_source_of_mem_deal {link : Link} {times : Nat} {draws : List Int}
    {outcome : Outcome}
    (member : outcome ∈ (deal (List.replicate times link) draws).map fun part =>
      part.1.outcomeOf part.2) :
    outcome.sign = link.sign ∧ outcome.source = link.term.source := by
  obtain ⟨part, dealt, rfl⟩ := List.mem_map.mp member
  have listed : part.1 ∈ (deal (List.replicate times link) draws).map Prod.fst :=
    List.mem_map_of_mem dealt
  rw [map_fst_deal] at listed
  rw [List.eq_of_mem_replicate listed]
  exact ⟨rfl, rfl⟩

/-- **A batch is its bare term solved again and again.** When `N#T` is a batch, `T` is a chain of
one term under the same options. Solving the batch yields the outcomes, makes the throws and leaves
the source of as many solves of `T` as `N` says, one after another; and its text is the query in
code quotes and then the text of each of these solves on a line of its own. -/
theorem Query.solve_batch {options : Options} {count body : String} {times : Nat} {term : Term}
    (parsed : (ofWord (count ++ "#" ++ body)).parse options = .ok (some (.batch times term))) :
    let batch := ofWord (count ++ "#" ++ body)
    let single := ofWord body
    (∃ digits : String, Numeral digits.toList ∧ value digits.toList = times ∧
      batch.text = digits ++ "#" ++ single.text) ∧
    (∃ bare : Term, bare.spec = term.spec ∧
      single.parse options = .ok (some (.chain [⟨.plus, bare⟩]))) ∧
    ∀ {σ : Type} (source : Source σ) (state : σ),
      ∃ (outcomes : List Outcome) (final : σ) (thrown : Array Throw),
        (batch.solve options source).run state =
          (.ok (some { kind := .batch, query := batch.text, outcomes }), final) ∧
        ((List.replicate times single).mapM (solve options source)).run state =
          (outcomes.map fun outcome => .ok (some (.single single.text outcome)), final) ∧
        (batch.solve options source.recording).run (state, #[]) =
          (.ok (some { kind := .batch, query := batch.text, outcomes }), final, thrown) ∧
        ((List.replicate times single).mapM (solve options source.recording)).run (state, #[]) =
          (outcomes.map fun outcome => .ok (some (.single single.text outcome)), final, thrown) ∧
        (∀ outcome ∈ outcomes, Chain.total [outcome] = outcome.total) ∧
        (Result.mk .batch batch.text outcomes).text =
          "`" ++ batch.text ++ "`" ++
            String.join (outcomes.map fun outcome => "\n" ++ (Result.single single.text outcome).text)
      := by
  intro batch single
  obtain ⟨written, bare, asks⟩ := exists_asksFor_of_batch parsed
  refine ⟨written, ⟨bare, asks.spec, asks.parsed⟩, fun source state => ?_⟩
  rcases drawn : ((Expression.batch times term).throws.mapM source.draw).run state with
    ⟨draws, final⟩
  have recorded := run_mapM_recording drawn #[]
  have again := asks.run_solve_replicate source times state
  have again' := asks.run_solve_replicate source.recording times (state, #[])
  have shown {outcome : Outcome}
      (member : outcome ∈ ((Expression.batch times term).resultOf batch.text draws).outcomes) :
      outcome.sign = .plus ∧ outcome.source = term.source := Link.sign_source_of_mem_deal member
  have rolled : (rollLinks source (List.replicate times ⟨.plus, term⟩)).run state = _ :=
    run_rollLinks drawn
  have rolled' :
      (rollLinks source.recording (List.replicate times ⟨.plus, term⟩)).run (state, #[]) = _ :=
    run_rollLinks recorded
  refine ⟨_, final, _, run_solve parsed drawn, ?_, run_solve parsed recorded, ?_, ?_, ?_⟩
  · rw [again, rolled]
    rfl
  · rw [again', rolled']
    rfl
  · intro outcome member
    exact Chain.total_singleton (shown member).1
  · apply Result.text_of_batch
    intro outcome member
    obtain ⟨plus, source⟩ := shown member
    exact ⟨plus, source.trans (asks.written.symm.trans asks.text)⟩

/-- Three times `2F+1`, drawn by counting: six dice, and three lines. -/
theorem Query.solve_batch_three_times :
    let counting : Source Int := { draw := fun _ drawn => (drawn + 1, drawn + 1) }
    let term : Term := {
      repeats := some 3, spec := ⟨2, .f, none, some 1⟩, source := "2f+1", length := 7 }
    let outcomeOf : List Face → Outcome := fun faces =>
      { faces, modifier := some 1, source := "2f+1", sign := .plus }
    let outcomes := [
      outcomeOf [⟨-5, some .lowest, true⟩, ⟨-4, none, true⟩],
      outcomeOf [⟨-3, none, true⟩, ⟨-2, none, true⟩],
      outcomeOf [⟨-1, none, true⟩, ⟨0, none, true⟩]]
    (ofWord ("03" ++ "#" ++ "2F+1")).parse {} = .ok (some (.batch 3 term)) ∧
    ((ofWord "03#2F+1").solve {} counting).run 0 =
      (.ok (some { kind := .batch, query := "03#2f+1", outcomes }), 6) ∧
    ((List.replicate 3 (ofWord "2F+1")).mapM (solve {} counting)).run 0 =
      (outcomes.map fun outcome => .ok (some (.single "2f+1" outcome)), 6) := by
  intro counting term outcomeOf outcomes
  have parsed : (ofWord ("03" ++ "#" ++ "2F+1")).parse {} = .ok (some (.batch 3 term)) := by
    decide +kernel
  have drawn : ((Expression.batch 3 term).throws.mapM counting.draw).run 0 =
      ([1, 2, 3, 4, 5, 6], 6) := rfl
  obtain ⟨-, -, solved⟩ := solve_batch parsed
  obtain ⟨others, final, -, once, again, -⟩ := solved counting 0
  have written : (ofWord ("03" ++ "#" ++ "2F+1")).text = "03#2f+1" := by decide +kernel
  have asked : (ofWord "2F+1").text = "2f+1" := by decide +kernel
  have thrown := once.symm.trans (run_solve parsed drawn)
  obtain ⟨same, rfl⟩ := Prod.mk.inj thrown
  obtain rfl := congrArg Result.outcomes (Option.some.inj (Except.ok.inj same))
  rw [written] at once
  rw [asked] at again
  exact ⟨parsed, once, again⟩

end DiceWords
