import DiceWords.Chat.Scan
import DiceWords.Proofs.Expression.Refusal
import DiceWords.Proofs.Query.Draws

/-! # The steps of a scan

Looking at a word does one of six things (`Scan.Progress.Step`): nothing, because a limit has been
met or because the word is plain; stopping, because the reply is full or because the dice of the
word would go over the budget; adding the result of an expression; adding an error line. A scan is
a run of such steps (`run_scan_iff`), and a source that keeps a record shows that each die
thrown in it has been counted. -/

namespace DiceWords.Chat

namespace Scan

/-! ## One word -/

namespace Progress

/-- Whether no limit has been met. -/
structure Open (progress : Progress) : Prop where
  going : progress.stopped = false
  room : progress.found.size ≤ maxMessageLength

theorem Open.not_stopped {progress : Progress} (opened : progress.Open) :
    ¬ progress.stopped = true := by
  rw [opened.going]
  exact Bool.false_ne_true

theorem Open.not_full {progress : Progress} (opened : progress.Open) :
    ¬ maxMessageLength < progress.found.size :=
  Nat.not_lt.mpr opened.room

/-- Stop because the reply is full. -/
def full (progress : Progress) : Progress :=
  progress.stop "Reply is full, skipping the rest of the message"

/-- Stop because the dice of a word would go over the budget. -/
def overBudget (progress : Progress) (word : String) : Progress :=
  { progress.stop ("`" ++ word ++ "` exceeds the dice budget") with
    found := progress.found.addLine budgetLine }

/-- Add the result of an expression. -/
def rolled (progress : Progress) (expression : Expression) (result : Result) : Progress :=
  { progress with
    found := progress.found.addResult expression.faces result
    log := progress.log ++ [⟨.debug, "Rolled `" ++ result.query ++ "`"⟩] }

/-- Add an error line. -/
def refused (progress : Progress) (error : Error) : Progress :=
  { progress with found := progress.found.addLine (errorLine error) }

variable {σ : Type}

/-- What looking at a word does, with the states of the source before and after it. -/
inductive Step (options : Options) (source : Source σ) (word : String) :
    Progress → σ → Progress → σ → Prop
  | stopped {progress : Progress} {state : σ} (stopped : progress.stopped = true) :
      Step options source word progress state progress state
  | full {progress : Progress} {state : σ} (going : progress.stopped = false)
      (long : maxMessageLength < progress.found.size) :
      Step options source word progress state progress.full state
  | plain {progress : Progress} {state : σ} (opened : progress.Open)
      (parsed : (Query.ofWord word).parse options = .ok none) :
      Step options source word progress state progress state
  | overBudget {progress : Progress} {state : σ} {expression : Expression} (opened : progress.Open)
      (parsed : (Query.ofWord word).parse options = .ok (some expression))
      (many : maxFacesPerMessage < progress.found.faces + expression.faces) :
      Step options source word progress state (progress.overBudget word) state
  | rolled {progress : Progress} {state final : σ} {expression : Expression} {draws : List Int}
      (opened : progress.Open)
      (parsed : (Query.ofWord word).parse options = .ok (some expression))
      (few : progress.found.faces + expression.faces ≤ maxFacesPerMessage)
      (drawn : (expression.throws.mapM source.draw).run state = (draws, final)) :
      Step options source word progress state
        (progress.rolled expression (expression.resultOf (Query.ofWord word).text draws)) final
  | refused {progress : Progress} {state : σ} {error : Error} (opened : progress.Open)
      (parsed : (Query.ofWord word).parse options = .error error) :
      Step options source word progress state (progress.refused error) state

variable {options : Options} {source : Source σ} {word : String} {progress next : Progress}
  {state final : σ}

/-- The steps are taken. -/
theorem Step.run (step : Step options source word progress state next final) :
    (progress.step options source word).run state = (next, final) := by
  cases step with
  | stopped stopped =>
      rw [Progress.step, if_pos stopped]
      rfl
  | full going long =>
      rw [Progress.step, if_neg (by simp [going]), if_pos long]
      rfl
  | plain opened parsed =>
      rw [Progress.step, if_neg opened.not_stopped, if_neg opened.not_full, parsed]
      rfl
  | overBudget opened parsed many =>
      rw [Progress.step, if_neg opened.not_stopped, if_neg opened.not_full, parsed]
      simp only [if_pos many]
      rfl
  | rolled opened parsed few drawn =>
      rw [Progress.step, if_neg opened.not_stopped, if_neg opened.not_full, parsed]
      simp only [if_neg (Nat.not_lt.mpr few), Query.roll, StateT.run_bind,
        Expression.run_roll drawn]
      rfl
  | refused opened parsed =>
      have user := Expression.mendable_parse options _ _ parsed
      rw [Progress.step, if_neg opened.not_stopped, if_neg opened.not_full, parsed]
      simp only [user, if_true]
      rfl

/-- There is always a step to take. -/
theorem exists_step (options : Options) (source : Source σ) (word : String) (progress : Progress)
    (state : σ) : ∃ next final, Step options source word progress state next final := by
  cases stopped : progress.stopped with
  | true => exact ⟨_, _, .stopped stopped⟩
  | false =>
      by_cases room : progress.found.size ≤ maxMessageLength
      · have opened : progress.Open := ⟨stopped, room⟩
        rcases parsed : (Query.ofWord word).parse options with error | _ | expression
        · exact ⟨_, _, .refused opened parsed⟩
        · exact ⟨_, _, .plain opened parsed⟩
        · by_cases few : progress.found.faces + expression.faces ≤ maxFacesPerMessage
          · exact ⟨_, _, .rolled opened parsed few rfl⟩
          · exact ⟨_, _, .overBudget opened parsed (Nat.lt_of_not_le few)⟩
      · exact ⟨_, _, .full stopped (Nat.lt_of_not_le room)⟩

/-- **What a step does is one of its cases**, and each of them is what it does. -/
theorem run_step_iff :
    (progress.step options source word).run state = (next, final) ↔
      Step options source word progress state next final := by
  constructor
  · intro ran
    obtain ⟨other, last, step⟩ := exists_step options source word progress state
    rw [step.run] at ran
    cases ran
    exact step
  · exact Step.run

/-- Within the budget the count of dice is exact. -/
theorem faces_eq_length_throws {expression : Expression}
    (few : expression.faces ≤ maxFacesPerMessage) :
    expression.faces = expression.throws.length := by
  have counted := expression.faces_eq_min_length_throws
  rw [maxFacesPerMessage] at few
  omega

/-- A source that keeps a record takes the same step, and each die that is thrown is counted. -/
theorem Step.recording (step : Step options source word progress state next final)
    (thrown : Array Throw) :
    ∃ more : List Throw,
      Step options source.recording word progress (state, thrown) next
        (final, thrown ++ more.toArray) ∧
      next.found.faces = progress.found.faces + more.length := by
  cases step with
  | stopped stopped => exact ⟨[], .stopped stopped, rfl⟩
  | full going long => exact ⟨[], .full going long, rfl⟩
  | plain opened parsed => exact ⟨[], .plain opened parsed, rfl⟩
  | overBudget opened parsed many => exact ⟨[], .overBudget opened parsed many, rfl⟩
  | refused opened parsed => exact ⟨[], .refused opened parsed, rfl⟩
  | rolled opened parsed few drawn =>
      refine ⟨_, .rolled opened parsed few (run_mapM_recording drawn thrown), ?_⟩
      rw [← faces_eq_length_throws (Nat.le_of_add_left_le few)]
      rfl

/-! ## Many words -/

/-- A word of a message is the last one or stands in front of it. -/
theorem split_concat {words before after : List String} {last word : String}
    (split : words ++ [last] = before ++ word :: after) :
    (words = before ∧ last = word) ∨ ∃ between, words = before ++ word :: between := by
  rcases List.eq_nil_or_concat' after with rfl | ⟨between, final, rfl⟩
  · obtain ⟨same, ends⟩ := List.append_inj' split rfl
    exact .inl ⟨same, List.singleton_inj.mp ends⟩
  · rw [← List.cons_append, ← List.append_assoc] at split
    exact .inr ⟨between, (List.append_inj' split rfl).1⟩

/-- A scan that has looked at some words, with the states of the source before and after it. -/
inductive Run (options : Options) (source : Source σ) (start : σ) :
    List String → Progress → σ → Prop
  | nil : Run options source start [] {} start
  | snoc {words : List String} {word : String} {progress next : Progress} {state final : σ}
      (earlier : Run options source start words progress state)
      (step : Step options source word progress state next final) :
      Run options source start (words ++ [word]) next final

namespace Run

variable {start : σ} {words : List String}

/-- A source that keeps a record makes the same run, and its record is as long as the count. -/
theorem recording (run : Run options source start words progress final) :
    ∃ thrown : Array Throw,
      Run options source.recording (start, #[]) words progress (final, thrown) ∧
      thrown.size = progress.found.faces := by
  induction run with
  | nil => exact ⟨#[], .nil, rfl⟩
  | snoc earlier step ih =>
      obtain ⟨thrown, before, size⟩ := ih
      obtain ⟨more, recorded, counted⟩ := step.recording thrown
      refine ⟨thrown ++ more.toArray, .snoc before recorded, ?_⟩
      rw [Array.size_append, size, List.size_toArray, counted]

/-- No scan meets a failure that the writer cannot mend. -/
theorem unexpected_eq_nil (run : Run options source start words progress final) :
    progress.found.unexpected = [] := by
  induction run with
  | nil => rfl
  | snoc earlier step ih => cases step <;> exact ih

end Run

end Progress

end Scan

open Scan.Progress

variable {σ : Type}

/-- Look at some words, one after another. -/
def scanWords (options : Options) (source : Source σ) (words : List String) :
    StateM σ Scan.Progress :=
  words.foldlM (Scan.Progress.step options source) {}

/-- A text is scanned word by word. -/
theorem scan_eq_scanWords (options : Options) (source : Source σ) (content : String) :
    scan options source content = scanWords options source (Text.words content) :=
  rfl

/-- The last word is scanned from where the others have left off. -/
theorem run_scanWords_concat (options : Options) (source : Source σ) (words : List String)
    (word : String) (start : σ) :
    (scanWords options source (words ++ [word])).run start =
      let (progress, state) := (scanWords options source words).run start
      (progress.step options source word).run state := by
  rw [scanWords, List.foldlM_append]
  simp only [List.foldlM_cons, List.foldlM_nil, bind_pure]
  rfl

/-- **A scan of words is a run of steps.** -/
theorem run_scanWords_iff {options : Options} {source : Source σ} {words : List String}
    {start final : σ} {progress : Scan.Progress} :
    (scanWords options source words).run start = (progress, final) ↔
      Run options source start words progress final := by
  constructor
  · intro ran
    induction words using List.reverseRecOn generalizing progress final with
    | nil =>
        cases ran
        exact .nil
    | append_singleton words word ih =>
        rw [run_scanWords_concat] at ran
        exact .snoc (ih rfl) (run_step_iff.mp ran)
  · intro run
    induction run with
    | nil => rfl
    | snoc earlier step ih =>
        rw [run_scanWords_concat, ih]
        exact step.run

/-- **A scan of a text is a run of steps over its words.** -/
theorem run_scan_iff {options : Options} {source : Source σ} {content : String}
    {start final : σ} {progress : Scan.Progress} :
    (scan options source content).run start = (progress, final) ↔
      Run options source start (Text.words content) progress final := by
  rw [scan_eq_scanWords, run_scanWords_iff]

end DiceWords.Chat
