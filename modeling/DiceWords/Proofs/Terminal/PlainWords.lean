import DiceWords.Proofs.Chat.PlainWords
import DiceWords.Proofs.Terminal.Line

/-! # Plain words change nothing

On a terminal a plain word prints nothing and throws nothing, so lines that are the same but for
plain words print the same (`SameButPlain.run_rollLine`). A scan does not notice plain words either.
Neither front end lets them interfere with the dice (`plain_words_ignored`). -/

namespace DiceWords

open Chat

namespace Terminal

variable {σ : Type} {source : Source σ} {word : String} {words : List String}
  {answers : List (Except Error (Option Result))} {state final : σ}

/-- A plain word throws nothing. -/
theorem throws_cons_of_plain (plain : (Query.ofWord word).parse {} = .ok none) :
    throws (word :: words) = throws words := by
  have nothing : (Query.ofWord word).throws {} = [] := by
    unfold Query.throws
    rw [plain]
  rw [throws, List.flatMap_cons, nothing, List.nil_append]
  rfl

/-- A plain word leaves the source as it is. -/
theorem run_rollWords_cons_of_plain (plain : (Query.ofWord word).parse {} = .ok none)
    (ran : (rollWords source words).run state = (answers, final)) :
    (rollWords source (word :: words)).run state = (.ok none :: answers, final) := by
  have passed : (rollWord source word).run state = (.ok none, state) :=
    Query.run_solve_plain plain
  rw [rollWords] at ran ⊢
  simp only [run_mapM_cons, passed, ran]

end Terminal

open Terminal

namespace Chat.SameButPlain

variable {screen : Screen} {σ : Type} {source : Source σ} {words others : List String}
  {state final : σ}

/-- Words that are the same but for plain ones make the same throws. -/
theorem throws_eq (same : SameButPlain {} words others) : throws words = throws others := by
  induction same with
  | nil => rfl
  | both word rest ih =>
      rw [throws] at ih
      rw [throws, List.flatMap_cons, ih, throws, throws, List.flatMap_cons]
  | left plain rest ih => rw [throws_cons_of_plain plain, ih]
  | right plain rest ih => rw [throws_cons_of_plain plain, ih]

/-- The words that are not plain get the same answers. -/
theorem run_rollWords (screen : Screen) (same : SameButPlain {} words others)
    {answers : List (Except Error (Option Result))}
    (ran : (rollWords source words).run state = (answers, final)) :
    ∃ otherAnswers, (rollWords source others).run state = (otherAnswers, final) ∧
      otherAnswers.filterMap (answer screen) = answers.filterMap (answer screen) := by
  induction same generalizing state final answers with
  | nil => exact ⟨answers, ran, rfl⟩
  | @both words others word rest ih =>
      rcases first : (rollWord source word).run state with ⟨reply, between⟩
      rcases later : (rollWords source words).run between with ⟨behind, last⟩
      obtain ⟨behindOther, laterOther, printed⟩ := ih later
      rw [rollWords] at ran later laterOther
      simp only [run_mapM_cons, first, later] at ran
      cases ran
      refine ⟨reply :: behindOther, ?_, ?_⟩
      · rw [rollWords]
        simp only [run_mapM_cons, first, laterOther]
      · rw [List.filterMap_cons, List.filterMap_cons, printed]
  | @left word words others plain rest ih =>
      rcases later : (rollWords source words).run state with ⟨behind, last⟩
      rw [run_rollWords_cons_of_plain plain later] at ran
      cases ran
      obtain ⟨otherAnswers, ranOther, printed⟩ := ih later
      exact ⟨otherAnswers, ranOther, printed⟩
  | right plain rest ih =>
      obtain ⟨otherAnswers, ranOther, printed⟩ := ih ran
      exact ⟨_, run_rollWords_cons_of_plain plain ranOther, printed⟩

/-- **Lines that are the same but for plain words print the same and throw the same.** -/
theorem run_rollLine {content other : String}
    (same : SameButPlain {} (Text.words content) (Text.words other)) {entries : List Printed}
    (ran : (rollLine screen source content).run state = (entries, final)) :
    (rollLine screen source other).run state = (entries, final) := by
  rcases rolled : (rollWords source (Text.words content)).run state with ⟨answers, last⟩
  obtain ⟨otherAnswers, rolledOther, shown⟩ := same.run_rollWords screen rolled
  rw [Terminal.run_rollLine, rolled] at ran
  cases ran
  rw [Terminal.run_rollLine, rolledOther]
  simp only [printed, shown]

end Chat.SameButPlain

/-- **Plain words do not interfere.** When the words of two texts are the same but for plain words,
which either text may have anywhere, a scan of each finds the same lines, the same ends of dice and
the same number of dice, and leaves the source in the same state after the same throws. Under the
usual options, the two texts as lines on a terminal print the same and make the same throws. -/
theorem plain_words_ignored {σ : Type} {options : Options} {content other : String}
    (same : SameButPlain options (Text.words content) (Text.words other)) (screen : Screen)
    (source : Source σ) (state : σ) :
    (∃ (progress otherProgress : Scan.Progress) (final : σ) (thrown : Array Throw),
      (scan options source content).run state = (progress, final) ∧
      (scan options source other).run state = (otherProgress, final) ∧
      (scan options source.recording content).run (state, #[]) = (progress, final, thrown) ∧
      (scan options source.recording other).run (state, #[]) = (otherProgress, final, thrown) ∧
      otherProgress.found = progress.found) ∧
    (options = {} → ∃ (entries : List Printed) (final : σ) (thrown : Array Throw),
      (rollLine screen source content).run state = (entries, final) ∧
      (rollLine screen source other).run state = (entries, final) ∧
      (rollLine screen source.recording content).run (state, #[]) = (entries, final, thrown) ∧
      (rollLine screen source.recording other).run (state, #[]) = (entries, final, thrown)) := by
  constructor
  · rcases ran : (scan options source content).run state with ⟨progress, final⟩
    obtain ⟨thrown, recorded, -⟩ := (run_scan_iff.mp ran).recording
    obtain ⟨otherProgress, ranOther, found⟩ := same.run_scanWords ran
    obtain ⟨otherThrown, recordedOther, -⟩ := (run_scanWords_iff.mp ranOther).recording
    have scanned := run_scan_iff.mpr recorded
    -- a scan that keeps a record is a scan, too, so the record comes out the same
    obtain ⟨again, ranAgain, -⟩ := same.run_scanWords scanned
    have ends := (run_scanWords_iff.mpr recordedOther).symm.trans ranAgain
    cases ends
    exact ⟨progress, otherProgress, final, thrown, rfl, ranOther, scanned, ranAgain, found⟩
  · rintro rfl
    rcases ran : (rollLine screen source content).run state with ⟨entries, final⟩
    have ranOther := same.run_rollLine ran
    have recorded := run_rollLine_recording ran
    have recordedOther := run_rollLine_recording ranOther
    rw [← same.throws_eq] at recordedOther
    exact ⟨entries, final, _, rfl, ranOther, recorded, recordedOther⟩

/-- Two dice words with plain words between them and behind them, and without. -/
theorem plain_words_ignored_two_words :
    let eights : Source Unit := { draw := fun _ => pure 8 }
    SameButPlain {} (Text.words "2f and 1r today") (Text.words "2f 1r") ∧
      ∃ (progress otherProgress : Scan.Progress) (entries : List Printed),
        (scan {} eights "2f and 1r today").run () = (progress, ()) ∧
        (scan {} eights "2f 1r").run () = (otherProgress, ()) ∧
        otherProgress.found = progress.found ∧
        progress.found.lines = ["`2f` `[2, 2]` = **4**", "`1r` `[-1]` = **-1**"] ∧
        (rollLine .ansi eights "2f and 1r today").run () = (entries, ()) ∧
        (rollLine .ansi eights "2f 1r").run () = (entries, ()) := by
  intro eights
  have same : SameButPlain {} (Text.words "2f and 1r today") (Text.words "2f 1r") := by
    have words : Text.words "2f and 1r today" = ["2f", "and", "1r", "today"] := by decide
    have others : Text.words "2f 1r" = ["2f", "1r"] := by decide
    rw [words, others]
    exact .both "2f" (.left (by decide +kernel) (.both "1r" (.left (by decide +kernel) .nil)))
  obtain ⟨⟨progress, otherProgress, _, _, ran, ranOther, -, -, found⟩, lines⟩ :=
    plain_words_ignored same .ansi eights ()
  obtain ⟨entries, _, _, printed, printedOther, -, -⟩ := lines rfl
  have shown : progress.found.lines = ["`2f` `[2, 2]` = **4**", "`1r` `[-1]` = **-1**"] := by
    have run : ((scan {} eights "2f and 1r today").run ()).1.found.lines =
        ["`2f` `[2, 2]` = **4**", "`1r` `[-1]` = **-1**"] := by
      decide +kernel
    rwa [ran] at run
  exact ⟨same, progress, otherProgress, entries, ran, ranOther, found, shown, printed, printedOther⟩

end DiceWords
