import DiceWords.Proofs.Chat.Scan
import DiceWords.Proofs.Keep.Ends
import DiceWords.Proofs.Query.Range

/-! # Where the ends of dice come from

A scan reports an end of a die when, in some term that it throws, a face that counts shows it. A
word that is rolled throws its terms (`Scan.Progress.Throws`), and a step for any other word leaves
the source and the ends alone (`Step.quiet_or_rolled`). Following a scan word by word, the terms
that it has thrown can be listed with their draws (`Run.exists_ledger`), and the ends that it
reports are those that the terms on the list show (`scan_extremes_iff`). -/

namespace DiceWords

theorem Result.mem_extremes_resultOf {expression : Expression} {query : String} {draws : List Int}
    {extreme : Extreme} :
    extreme ∈ (expression.resultOf query draws).extremes.toList ↔
      ∃ part ∈ Link.deal expression.links draws,
        extreme ∈ (Extremes.ofFaces (part.1.outcomeOf part.2).faces).toList := by
  rw [extremes, Expression.resultOf, List.flatMap_map]
  exact Extremes.mem_toList_ofFaces_flatMap

namespace Chat

namespace Scan.Progress

variable {σ : Type} {options : Options} {source : Source σ} {word : String}
  {progress next : Progress} {state final : σ}

/-! ## One word -/

/-- A word is rolled, and a term of it with its draws is among what is thrown. -/
inductive Throws (options : Options) (source : Source σ) (word : String) (progress : Progress)
    (state : σ) : Link × List Int → Prop
  | intro {expression : Expression} {draws : List Int} {final : σ} {part : Link × List Int}
      (opened : progress.Open)
      (parsed : (Query.ofWord word).parse options = .ok (some expression))
      (few : progress.found.faces + expression.faces ≤ maxFacesPerMessage)
      (drawn : (expression.throws.mapM source.draw).run state = (draws, final))
      (dealt : part ∈ Link.deal expression.links draws) :
      Throws options source word progress state part

/-- What is thrown for a word that is rolled. -/
theorem throws_iff {expression : Expression} {draws : List Int} (opened : progress.Open)
    (parsed : (Query.ofWord word).parse options = .ok (some expression))
    (few : progress.found.faces + expression.faces ≤ maxFacesPerMessage)
    (drawn : (expression.throws.mapM source.draw).run state = (draws, final))
    (part : Link × List Int) :
    Throws options source word progress state part ↔ part ∈ Link.deal expression.links draws := by
  constructor
  · rintro ⟨-, parsed', -, drawn', dealt⟩
    rw [parsed] at parsed'
    cases parsed'
    rw [drawn] at drawn'
    cases drawn'
    exact dealt
  · exact .intro opened parsed few drawn

/-- A step that throws nothing and reports nothing, and takes place without the source. -/
structure Quiet (options : Options) (source : Source σ) (word : String) (progress : Progress)
    (state : σ) (next : Progress) (final : σ) : Prop where
  unchanged : final = state
  extremes : next.found.extremes = progress.found.extremes
  recording : ∀ thrown : Array Throw,
    Step options source.recording word progress (state, thrown) next (state, thrown)
  throws : ∀ part, ¬ Throws options source word progress state part

/-- **A word is rolled, or it neither draws nor reports an end.** -/
theorem Step.quiet_or_rolled (step : Step options source word progress state next final) :
    Quiet options source word progress state next final ∨
      ∃ (expression : Expression) (draws : List Int), progress.Open ∧
        (Query.ofWord word).parse options = .ok (some expression) ∧
        progress.found.faces + expression.faces ≤ maxFacesPerMessage ∧
        (expression.throws.mapM source.draw).run state = (draws, final) ∧
        next = progress.rolled expression
          (expression.resultOf (Query.ofWord word).text draws) := by
  cases step with
  | stopped stopped =>
      refine .inl ⟨rfl, rfl, fun thrown => .stopped stopped, ?_⟩
      rintro part ⟨opened, -⟩
      exact opened.not_stopped stopped
  | full going long =>
      refine .inl ⟨rfl, rfl, fun thrown => .full going long, ?_⟩
      rintro part ⟨opened, -⟩
      exact opened.not_full long
  | plain opened parsed =>
      refine .inl ⟨rfl, rfl, fun thrown => .plain opened parsed, ?_⟩
      rintro part ⟨-, parsed', -⟩
      rw [parsed] at parsed'
      cases parsed'
  | overBudget opened parsed many =>
      refine .inl ⟨rfl, rfl, fun thrown => .overBudget opened parsed many, ?_⟩
      rintro part ⟨-, parsed', few, -⟩
      rw [parsed] at parsed'
      cases parsed'
      exact Nat.not_lt.mpr few many
  | rolled opened parsed few drawn => exact .inr ⟨_, _, opened, parsed, few, drawn, rfl⟩
  | refused opened parsed =>
      refine .inl ⟨rfl, rfl, fun thrown => .refused opened parsed, ?_⟩
      rintro part ⟨-, parsed', -⟩
      rw [parsed] at parsed'
      cases parsed'

/-! ## Many words -/

variable {start : σ} {words : List String}

/-- Some word of a message is rolled once the words in front of it have been looked at, and a term
of it with its draws is among what is thrown. -/
def Rolls (options : Options) (source : Source σ) (start : σ) (words : List String)
    (part : Link × List Int) : Prop :=
  ∃ before word after earlier state, words = before ++ word :: after ∧
    (scanWords options source before).run start = (earlier, state) ∧
    Throws options source word earlier state part

theorem rolls_nil (options : Options) (source : Source σ) (start : σ) (part : Link × List Int) :
    ¬ Rolls options source start [] part := by
  rintro ⟨before, word, after, -, -, split, -⟩
  simp at split

/-- One more word throws its own terms and takes none back. -/
theorem Run.rolls_concat_iff (earlier : Run options source start words progress state)
    (word : String) (part : Link × List Int) :
    Rolls options source start (words ++ [word]) part ↔
      Rolls options source start words part ∨ Throws options source word progress state part := by
  constructor
  · rintro ⟨before, other, after, reached, between, split, ran, thrown⟩
    rcases split_concat split with ⟨rfl, rfl⟩ | ⟨inside, inFront⟩
    · rw [run_scanWords_iff.mpr earlier] at ran
      cases ran
      exact .inr thrown
    · exact .inl ⟨before, other, inside, reached, between, inFront, ran, thrown⟩
  · rintro (⟨before, other, after, reached, between, rfl, ran, thrown⟩ | thrown)
    · exact ⟨before, other, after ++ [word], reached, between, by simp, ran, thrown⟩
    · exact ⟨words, word, [], progress, state, rfl, run_scanWords_iff.mpr earlier, thrown⟩

/-- A list of terms with their draws that holds what a scan has thrown, in order. -/
structure Ledger (options : Options) (source : Source σ) (start : σ) (words : List String)
    (progress : Progress) (final : σ) (parts : List (Link × List Int)) : Prop where
  mem_iff : ∀ part, part ∈ parts ↔ Rolls options source start words part
  drawn : ((parts.flatMap fun part => part.1.throws).mapM source.draw).run start =
    (parts.flatMap Prod.snd, final)
  recording : Run options source.recording (start, #[]) words progress
    (final, (parts.flatMap fun part => part.1.throws).toArray)
  counts : ∀ part ∈ parts, part.2.length = part.1.term.spec.amount
  extremes : ∀ extreme, extreme ∈ progress.found.extremes.toList ↔
    ∃ part ∈ parts, extreme ∈ (Extremes.ofFaces (part.1.outcomeOf part.2).faces).toList

namespace Ledger

variable {parts : List (Link × List Int)}

theorem nil : Ledger options source start [] {} start [] where
  mem_iff part := iff_of_false List.not_mem_nil (rolls_nil options source start part)
  drawn := rfl
  recording := .nil
  counts := List.forall_mem_nil _
  extremes extreme := by
    constructor
    · intro member
      exact absurd member List.not_mem_nil
    · rintro ⟨part, member, -⟩
      exact absurd member List.not_mem_nil

/-- A quiet word leaves the list as it is. -/
theorem quiet (ledger : Ledger options source start words progress state parts)
    (earlier : Run options source start words progress state)
    (quiet : Quiet options source word progress state next final) :
    Ledger options source start (words ++ [word]) next final parts where
  mem_iff part := by
    rw [ledger.mem_iff, earlier.rolls_concat_iff word part]
    exact (or_iff_left (quiet.throws part)).symm
  drawn := by
    rw [quiet.unchanged]
    exact ledger.drawn
  recording := by
    rw [quiet.unchanged]
    exact .snoc ledger.recording (quiet.recording _)
  counts := ledger.counts
  extremes extreme := by
    rw [quiet.extremes]
    exact ledger.extremes extreme

/-- A word that is rolled adds its own terms at the end. -/
theorem rolled {expression : Expression} {draws : List Int}
    (ledger : Ledger options source start words progress state parts)
    (earlier : Run options source start words progress state) (opened : progress.Open)
    (parsed : (Query.ofWord word).parse options = .ok (some expression))
    (few : progress.found.faces + expression.faces ≤ maxFacesPerMessage)
    (drawn : (expression.throws.mapM source.draw).run state = (draws, final)) :
    Ledger options source start (words ++ [word])
      (progress.rolled expression (expression.resultOf (Query.ofWord word).text draws)) final
      (parts ++ Link.deal expression.links draws) := by
  obtain ⟨flat, lengths⟩ := Link.deal_of_length (length_eq_of_run_mapM drawn)
  have throws : (parts ++ Link.deal expression.links draws).flatMap (fun part => part.1.throws) =
      parts.flatMap (fun part => part.1.throws) ++ expression.throws := by
    rw [List.flatMap_append, Link.flatMap_throws_deal]
    rfl
  refine ⟨?_, ?_, ?_, ?_, ?_⟩
  · intro part
    rw [List.mem_append, ledger.mem_iff, earlier.rolls_concat_iff word part,
      throws_iff opened parsed few drawn]
  · rw [throws, run_mapM_append, ledger.drawn, List.flatMap_append, flat]
    simp only [drawn]
  · rw [throws, ← List.append_toArray]
    exact .snoc ledger.recording (.rolled opened parsed few (run_mapM_recording drawn _))
  · intro part member
    rcases List.mem_append.mp member with before | own
    · exact ledger.counts part before
    · exact lengths part own
  · intro extreme
    have joined : extreme ∈ (progress.rolled expression
        (expression.resultOf (Query.ofWord word).text draws)).found.extremes.toList ↔
          extreme ∈ progress.found.extremes.toList ∨
            extreme ∈ (expression.resultOf (Query.ofWord word).text draws).extremes.toList :=
      Extremes.mem_toList_union_iff
    rw [joined, ledger.extremes, Result.mem_extremes_resultOf]
    simp only [List.mem_append, or_and_right, exists_or]

end Ledger

/-- **What a scan has thrown can be listed.** -/
theorem Run.exists_ledger (run : Run options source start words progress final) :
    ∃ parts, Ledger options source start words progress final parts := by
  induction run with
  | nil => exact ⟨[], .nil⟩
  | snoc earlier step ih =>
      obtain ⟨parts, ledger⟩ := ih
      rcases step.quiet_or_rolled with quiet | ⟨_, _, opened, parsed, few, drawn, rfl⟩
      · exact ⟨parts, ledger.quiet earlier quiet⟩
      · exact ⟨_, ledger.rolled earlier opened parsed few drawn⟩

end Scan.Progress

open Scan.Progress

variable {σ : Type} {options : Options} {source : Source σ} {state : σ} {words : List String}
  {part : Link × List Int}

/-- A clause of a term that has been rolled keeps some face. -/
theorem keep_positive_of_rolls (rolls : Rolls options source state words part) {keep : Keep}
    (clause : part.1.term.spec.keep = some keep) : 0 < keep.count := by
  obtain ⟨-, word, -, -, -, -, -, -, parsed, -, -, dealt⟩ := rolls
  have listed := List.mem_map_of_mem (f := Prod.fst) dealt
  rw [Link.map_fst_deal] at listed
  exact ((Expression.fits_of_parse parsed _ listed).keep keep clause).1

/-- A word that is not rolled reports no end. -/
theorem extremes_eq_of_not_rolled (options : Options) (source : Source σ) (before : List String)
    (word : String) (start : σ)
    (passed : ∀ expression, (Query.ofWord word).parse options = .ok (some expression) →
      maxFacesPerMessage <
        ((scanWords options source before).run start).1.found.faces + expression.faces) :
    ((scanWords options source (before ++ [word])).run start).1.found.extremes =
      ((scanWords options source before).run start).1.found.extremes := by
  rcases ran : (scanWords options source before).run start with ⟨progress, state⟩
  rcases stepped : (progress.step options source word).run state with ⟨next, final⟩
  simp only [run_scanWords_concat, ran, stepped] at passed ⊢
  rcases (run_step_iff.mp stepped).quiet_or_rolled with quiet | ⟨_, _, -, parsed, few, -, -⟩
  · exact quiet.extremes
  · exact absurd few (Nat.not_le.mpr (passed _ parsed))

/-- **The ends that a scan reports are exact.** What it throws can be listed: the terms of the words
that it rolls, with the draws that they got. An end is reported exactly when in some of these terms
a face that counts has the value of that end of its die. A term with a keep clause shows the end of
the clause among the faces that count exactly when any of its faces shows it. Words that are no
expressions, errors among them, and the word that goes over the budget report nothing. -/
theorem scan_extremes_iff (options : Options) (source : Source σ) (content : String)
    (inRange : source.InRange state) :
    ∃ (progress : Scan.Progress) (final : σ) (parts : List (Link × List Int)),
      (scan options source content).run state = (progress, final) ∧
      (scan options source.recording content).run (state, #[]) =
        (progress, final, (parts.flatMap fun part => part.1.throws).toArray) ∧
      ((parts.flatMap fun part => part.1.throws).mapM source.draw).run state =
        (parts.flatMap Prod.snd, final) ∧
      (∀ part, part ∈ parts ↔ Rolls options source state (Text.words content) part) ∧
      (∀ extreme, extreme ∈ progress.found.extremes.toList ↔
        ∃ part ∈ parts, ∃ face ∈ (part.1.outcomeOf part.2).faces,
          face.kept = true ∧ face.value = part.1.term.spec.die.valueAt extreme) ∧
      (∀ part ∈ parts, ∀ keep, part.1.term.spec.keep = some keep →
        ((∃ face ∈ (part.1.outcomeOf part.2).faces,
            face.kept = true ∧ face.value = part.1.term.spec.die.valueAt keep.side.extreme) ↔
          ∃ face ∈ (part.1.outcomeOf part.2).faces,
            face.value = part.1.term.spec.die.valueAt keep.side.extreme)) ∧
      ∀ before word, (∀ expression, (Query.ofWord word).parse options = .ok (some expression) →
          maxFacesPerMessage <
            ((scanWords options source before).run state).1.found.faces + expression.faces) →
        ((scanWords options source (before ++ [word])).run state).1.found.extremes =
          ((scanWords options source before).run state).1.found.extremes := by
  rcases ran : (scan options source content).run state with ⟨progress, final⟩
  obtain ⟨parts, ledger⟩ := (run_scan_iff.mp ran).exists_ledger
  refine ⟨progress, final, parts, rfl, run_scan_iff.mpr ledger.recording, ledger.drawn,
    ledger.mem_iff, ?_, ?_, ?_⟩
  · intro extreme
    rw [ledger.extremes]
    exact exists_congr fun part => and_congr_right fun _ =>
      Extremes.mem_toList_ofFaces_facesOf part.1.term.spec part.2 extreme
  · intro part member keep clause
    have fair := inRange.fair_of_mem ledger.counts ledger.drawn part member
    have positive := keep_positive_of_rolls ((ledger.mem_iff part).mp member) clause
    have shown := Keep.extreme_mem_ofFaces_iff clause positive fair.value_mem_range
    rwa [Extremes.mem_toList_ofFaces_facesOf] at shown
  · exact fun before word passed => extremes_eq_of_not_rolled options source before word state passed

/-- Of two dice the higher is kept, and it shows the highest end. The dice draw their last side and
their third side by turns. -/
theorem scan_extremes_iff_kept_highest :
    let turns : Source Bool := {
      draw := fun throw top => (if top then throw.high else min (throw.low + 2) throw.high, !top) }
    turns.InRange true ∧
      ∃ (progress : Scan.Progress) (final : Bool) (parts : List (Link × List Int)),
        (scan {} turns "1f+ 2fkh1").run true = (progress, final) ∧
        .highest ∈ progress.found.extremes.toList ∧
        (∃ part ∈ parts, ∃ face ∈ (part.1.outcomeOf part.2).faces,
          face.kept = true ∧ face.value = part.1.term.spec.die.highest) ∧
        ((scanWords {} turns ([] ++ ["1f+"])).run true).1.found.extremes =
          ((scanWords {} turns []).run true).1.found.extremes := by
  intro turns
  have inRange : turns.InRange true := by
    apply Source.inRange_of_forall_draw
    intro throw top ordered
    cases top with
    | true => exact ⟨ordered, Int.le_refl _⟩
    | false =>
        have second : throw.low ≤ min (throw.low + 2) throw.high := by omega
        exact ⟨second, Int.min_le_right _ _⟩
  let link : Link := ⟨.plus, ⟨none, ⟨2, .f, some ⟨.high, 1⟩, none⟩, "2fkh1", 5⟩⟩
  let earlier : Scan.Progress := ({} : Scan.Progress).refused (.malformed "1f+" .missingDice)
  have malformed : (Query.ofWord "1f+").parse {} = .error (.malformed "1f+" .missingDice) := by
    decide +kernel
  obtain ⟨progress, final, parts, ran, -, -, listed, ends, clauses, passed⟩ :=
    scan_extremes_iff {} turns "1f+ 2fkh1" inRange
  have rolls : Rolls {} turns true (Text.words "1f+ 2fkh1") (link, [12, 3]) := by
    have parsed : (Query.ofWord "2fkh1").parse {} = .ok (some (.chain [link])) := by
      decide +kernel
    have reached : Run {} turns true ["1f+"] earlier true :=
      Run.nil.snoc (.refused ⟨rfl, by decide⟩ malformed)
    have dealt : (link, [12, 3]) ∈ Link.deal [link] [12, 3] := List.mem_singleton_self _
    exact ⟨["1f+"], "2fkh1", [], earlier, true, by decide, run_scanWords_iff.mpr reached,
      .intro ⟨rfl, by decide +kernel⟩ parsed (by decide) rfl dealt⟩
  have member := (listed _).mpr rolls
  have shown : ∃ face ∈ (link.outcomeOf [12, 3]).faces, face.value = Die.f.highest := by
    have shows : (link.outcomeOf [12, 3]).Shows link [12, 3] := link.shows_outcomeOf rfl
    exact List.mem_map.mp (shows.values.mem_iff.mpr (by decide))
  have counted := (clauses _ member ⟨.high, 1⟩ rfl).mpr shown
  refine ⟨inRange, progress, final, parts, ran, (ends .highest).mpr ⟨_, member, counted⟩,
    ⟨_, member, counted⟩, passed [] "1f+" fun expression parsed => ?_⟩
  rw [malformed] at parsed
  cases parsed

end Chat

end DiceWords
