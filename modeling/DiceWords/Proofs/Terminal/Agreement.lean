import DiceWords.Proofs.Chat.Answers
import DiceWords.Proofs.Terminal.Display
import DiceWords.Proofs.Terminal.Line

/-! # The bot and the terminal agree

A scan reads a word first and throws its dice later, as far as its limits allow; on a terminal a
word is solved in one step and there are no limits. Where a scan meets none of its limits, each step
of it throws what the terminal throws for the same word, and adds a line exactly when something is
printed (`Scan.Progress.Step.shows`). So both draw the same numbers and show the same results and
errors (`rollLine_agrees_scan`). -/

namespace DiceWords.Terminal

open Chat

/-- What is printed shows a line of a scan: the same result, or the error of an error line. -/
inductive Shows (screen : Screen) : Printed → String → Prop
  | result (result : Result) : Shows screen (.output (screen.render result.text)) result.text
  | error (error : Error) :
      Shows screen (.error (screen.paint .boldRed error.text)) (errorLine error)

end DiceWords.Terminal

namespace DiceWords.Chat.Scan.Progress

open Terminal

variable (screen : Screen) {σ : Type} {source : Source σ} {word : String} {words : List String}
  {progress next : Progress} {state final start : σ}

/-- A word that is passed over by a step that adds no line is passed over on the terminal, too. -/
theorem run_rollWord_of_unanswered
    (answered : progress.found.lines.length =
      progress.found.lines.length + ([word].filter (asks {})).length) :
    (rollWord source word).run state = (.ok none, state) := by
  apply Query.run_solve_plain
  apply not_asks_iff.mp
  intro asked
  rw [List.filter_cons_of_pos asked, List.length_cons] at answered
  omega

/-- A step that is kept by no limit from answering its word makes the throws that the terminal makes
for the word, and adds the lines that the terminal shows. -/
theorem Step.shows (step : Step {} source word progress state next final)
    (unbudgeted : budgetLine ∉ next.found.lines)
    (answered : next.found.lines.length =
      progress.found.lines.length + ([word].filter (asks {})).length) :
    ∃ (reply : Except Error (Option Result)) (lines : List String),
      (rollWord source word).run state = (reply, final) ∧
      next.found.lines = progress.found.lines ++ lines ∧
      List.Forall₂ (Shows screen) (answer screen reply).toList lines := by
  cases step with
  | stopped stopped =>
      exact ⟨_, [], run_rollWord_of_unanswered answered, (List.append_nil _).symm, .nil⟩
  | full going long =>
      exact ⟨_, [], run_rollWord_of_unanswered answered, (List.append_nil _).symm, .nil⟩
  | plain opened parsed =>
      exact ⟨_, [], Query.run_solve_plain parsed, (List.append_nil _).symm, .nil⟩
  | overBudget opened parsed many =>
      exact absurd (List.mem_append_right _ (List.mem_singleton_self _)) unbudgeted
  | rolled opened parsed few drawn =>
      refine ⟨_, _, Query.run_solve parsed drawn, rfl, ?_⟩
      exact .cons (.result _) .nil
  | refused opened parsed =>
      refine ⟨_, _, Query.run_solve_error parsed, rfl, ?_⟩
      exact .cons (.error _) .nil

/-- If no limit keeps a scan from answering any of its words, the terminal makes the same throws for
these words and shows the same lines. -/
theorem Run.shows (run : Run {} source start words progress final)
    (unbudgeted : budgetLine ∉ progress.found.lines)
    (answered : progress.found.lines.length = (words.filter (asks {})).length) :
    ∃ answers, (rollWords source words).run start = (answers, final) ∧
      List.Forall₂ (Shows screen) (answers.filterMap (answer screen)) progress.found.lines := by
  induction run with
  | nil => exact ⟨[], rfl, .nil⟩
  | @snoc words word progress next state final earlier step ih =>
      rw [List.filter_append, List.length_append] at answered
      -- neither the run before nor the step can have more lines than words that ask
      have before := earlier.length_lines_le
      have added := step.length_lines_le
      have answeredBefore : progress.found.lines.length = (words.filter (asks {})).length := by
        omega
      have answeredHere : next.found.lines.length =
          progress.found.lines.length + ([word].filter (asks {})).length := by
        omega
      obtain ⟨reply, lines, rolled, appended, shown⟩ := step.shows screen unbudgeted answeredHere
      rw [appended] at unbudgeted ⊢
      obtain ⟨answers, ran, shownBefore⟩ :=
        ih (fun member => unbudgeted (List.mem_append_left _ member)) answeredBefore
      refine ⟨answers ++ [reply], ?_, ?_⟩
      · rw [rollWords] at ran ⊢
        simp only [run_mapM_append, ran, run_mapM_cons, rolled]
        rfl
      · rw [List.filterMap_append]
        refine List.rel_append shownBefore ?_
        cases entry : answer screen reply with
        | none => simpa [entry] using shown
        | some text => simpa [entry] using shown

end DiceWords.Chat.Scan.Progress

namespace DiceWords.Terminal

open Chat Scan.Progress

/-- **The two front ends agree.** If no limit keeps the scan of a line from answering a word that
asks, rolling the line on the terminal makes the same throws and shows the same results and errors,
each on its own stream, and nothing else. If there is nothing to show, it prints the notice that
there are no dice. -/
theorem rollLine_agrees_scan {screen : Screen} (colors : screen.Colors) {σ : Type}
    (source : Source σ) (line : String) (state : σ)
    (unbudgeted : budgetLine ∉ ((scan {} source line).run state).1.found.lines)
    (answered : ((scan {} source line).run state).1.found.lines.length =
      ((Text.words line).filter (asks {})).length) :
    ∃ (progress : Scan.Progress) (entries : List Printed) (final : σ) (thrown : Array Throw),
      (scan {} source line).run state = (progress, final) ∧
      (scan {} source.recording line).run (state, #[]) = (progress, final, thrown) ∧
      (rollLine screen source line).run state = (entries, final) ∧
      (rollLine screen source.recording line).run (state, #[]) = (entries, final, thrown) ∧
      (progress.found.lines ≠ [] → List.Forall₂ (Shows screen) entries progress.found.lines) ∧
      (entries = [noDice screen] ↔ progress.found.lines = []) := by
  rcases ran : (scan {} source line).run state with ⟨progress, final⟩
  rw [ran] at unbudgeted answered
  have run := run_scan_iff.mp ran
  obtain ⟨thrown, recorded, -⟩ := run.recording
  obtain ⟨answers, rolled, shown⟩ := run.shows screen unbudgeted answered
  have printing : (rollLine screen source line).run state = (printed screen answers, final) := by
    rw [run_rollLine, rolled]
  -- the scan and the line leave the same record, since their runs on a recording source agree, too
  have record : thrown = (throws (Text.words line)).toArray := by
    obtain ⟨again, rolledAgain, -⟩ := recorded.shows screen unbudgeted answered
    rw [run_rollWords_recording rolled, Array.empty_append] at rolledAgain
    cases rolledAgain
    rfl
  refine ⟨progress, printed screen answers, final, thrown, rfl, run_scan_iff.mpr recorded,
    printing, ?_, ?_, ?_⟩
  · rw [record]
    exact run_rollLine_recording printing
  · intro something
    have entries : answers.filterMap (answer screen) ≠ [] := by
      intro nothing
      rw [nothing] at shown
      exact something (List.forall₂_nil_left_iff.mp shown)
    rwa [printed, if_neg (by simpa using entries)]
  · rw [printed_eq_noDice_iff colors]
    constructor
    · intro nothing
      rw [nothing] at shown
      exact List.forall₂_nil_left_iff.mp shown
    · intro nothing
      rw [nothing] at shown
      exact List.forall₂_nil_right_iff.mp shown

/-- A malformed word, a plain word and dice, with every draw an `8`. -/
theorem rollLine_agrees_scan_three_words :
    let eights : Source Unit := { draw := fun _ => pure 8 }
    let found := ((scan {} eights "2f+ and 1f").run ()).1.found
    budgetLine ∉ found.lines ∧
      found.lines.length = ((Text.words "2f+ and 1f").filter (asks {})).length ∧
      Screen.ansi.Colors ∧
      ∃ entries, ((rollLine .ansi eights "2f+ and 1f").run ()).1 = entries ∧
        List.Forall₂ (Shows .ansi) entries found.lines ∧ found.lines.length = 2 := by
  intro eights found
  have unbudgeted : budgetLine ∉ found.lines := by decide +kernel
  have answered : found.lines.length = ((Text.words "2f+ and 1f").filter (asks {})).length := by
    decide +kernel
  have two : found.lines.length = 2 := by decide +kernel
  obtain ⟨progress, entries, final, thrown, scanned, -, rolled, -, shown, -⟩ :=
    rollLine_agrees_scan Screen.colors_ansi eights "2f+ and 1f" () unbudgeted answered
  have lines : found.lines = progress.found.lines := by
    rw [← show ((scan {} eights "2f+ and 1f").run ()).1 = progress from congrArg Prod.fst scanned]
  refine ⟨unbudgeted, answered, Screen.colors_ansi, entries, congrArg Prod.fst rolled, ?_, two⟩
  rw [lines]
  apply shown
  intro nothing
  rw [lines, nothing] at two
  exact nomatch two

end DiceWords.Terminal
