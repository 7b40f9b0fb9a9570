import DiceWords.Proofs.Chat.Scan
import Mathlib.Algebra.Ring.Nat

/-! # The limits of a scan

Whatever a message holds, its scan throws no more dice than the budget allows, and all lines but the
last fit in one message. The budget line is written once the dice of a word would go over the
budget; it stays the last line, and from that word on no die is thrown
(`scan_within_limits`). -/

namespace DiceWords

/-! ## The budget line is no other line -/

/-- A result is shown between backticks, so its text begins with one. -/
theorem Result.exists_text_eq (result : Result) : ∃ rest, result.text = "`" ++ rest := by
  have lines (outcomes : List Outcome) (start : String) :
      ∃ rest, outcomes.foldl (fun text outcome => text ++ "\n" ++ outcome.text) ("`" ++ start) =
        "`" ++ rest := by
    induction outcomes generalizing start with
    | nil => exact ⟨start, rfl⟩
    | cons outcome others ih =>
        rw [List.foldl_cons, String.append_assoc, String.append_assoc]
        exact ih _
  unfold Result.text
  split
  · rw [String.append_assoc]
    exact lines _ _
  · rw [String.append_assoc, String.append_assoc]
    exact ⟨_, rfl⟩

/-- No result looks like the notice that the budget is spent. -/
theorem Result.text_ne_budgetLine (result : Result) : result.text ≠ Chat.budgetLine := by
  obtain ⟨rest, text⟩ := result.exists_text_eq
  intro same
  have first := congrArg (fun text : String => text.toList.head?) (text.symm.trans same)
  simp [Chat.budgetLine] at first

/-- The words of an error begin in another way than the notice about the budget. -/
theorem Error.head?_text_ne (error : Error) : error.text.toList.head? ≠ some 't' := by
  delta text
  cases error with
  | malformed input reason =>
      have first : "malformed expression `".toList.head? = some 'm' := by decide
      simp only [String.toList_append, List.head?_append, first, Option.some_or]
      decide
  | invalid why =>
      have first : "invalid dice: ".toList.head? = some 'i' := by decide
      simp only [String.toList_append, List.head?_append, first, Option.some_or]
      decide
  | unknownDie text =>
      have first : "unknown dice type `".toList.head? = some 'u' := by decide
      simp only [String.toList_append, List.head?_append, first, Option.some_or]
      decide

/-- No error line looks like the notice that the budget is spent. -/
theorem Chat.errorLine_ne_budgetLine (error : Error) : errorLine error ≠ budgetLine := by
  intro same
  have split : budgetLine = "**error** *" ++ "too many dice in one message*" := by decide
  rw [errorLine, String.append_assoc, split, String.append_right_inj] at same
  have first := congrArg (fun text : String => text.toList.head?) same
  have budget : "too many dice in one message*".toList.head? = some 't' := by decide
  simp only [String.toList_append, List.head?_append, budget] at first
  cases starts : error.text.toList.head? with
  | none =>
      rw [starts] at first
      exact absurd first (by decide)
  | some c =>
      rw [starts] at first
      exact error.head?_text_ne (starts.trans first)
namespace Chat.Scan.Progress

variable {σ : Type} {options : Options} {source : Source σ} {word : String}
  {progress next : Progress} {state final start : σ} {words : List String}

/-! ## No step leaves the limits -/

/-- A scan within its limits. -/
structure Within (progress : Progress) : Prop where
  faces : progress.found.faces ≤ maxFacesPerMessage
  last : budgetLine ∉ progress.found.lines.dropLast
  length : (progress.found.lines.dropLast.map fun line => line.utf8ByteSize + 1).sum ≤
    maxMessageLength
  going : progress.stopped = false → budgetLine ∉ progress.found.lines

/-- A scan begins within its limits. -/
theorem within_nil : Within {} where
  faces := Nat.zero_le _
  last := List.not_mem_nil
  length := Nat.zero_le _
  going := fun _ => List.not_mem_nil

/-- While a scan is open, the notice about the budget is not among its lines. -/
theorem Within.budgetLine_not_mem (within : progress.Within) (opened : progress.Open)
    {line : String} (other : line ≠ budgetLine) :
    budgetLine ∉ progress.found.lines ++ [line] := by
  rw [List.mem_append, List.mem_singleton]
  rintro (earlier | same)
  · exact within.going opened.going earlier
  · exact other same.symm

/-- A line can be added as long as no limit has been met. -/
theorem Within.addLine (within : progress.Within) (opened : progress.Open) {line : String}
    (lines : next.found.lines = progress.found.lines ++ [line])
    (faces : next.found.faces ≤ maxFacesPerMessage)
    (going : next.stopped = false → line ≠ budgetLine) : next.Within where
  faces := faces
  last := by
    rw [lines, List.dropLast_concat]
    exact within.going opened.going
  length := by
    rw [lines, List.dropLast_concat, List.sum_eq_foldr]
    exact opened.room
  going := by
    intro stillGoing
    rw [lines]
    exact within.budgetLine_not_mem opened (going stillGoing)

/-- **A step stays within the limits.** -/
theorem Step.within (step : Step options source word progress state next final)
    (within : progress.Within) : next.Within := by
  cases step with
  | stopped stopped => exact within
  | full going long => exact ⟨within.faces, within.last, within.length, fun going => nomatch going⟩
  | plain opened parsed => exact within
  | overBudget opened parsed many =>
      exact within.addLine opened rfl within.faces fun going => nomatch going
  | rolled opened parsed few drawn =>
      exact within.addLine opened rfl few fun _ => Result.text_ne_budgetLine _
  | refused opened parsed =>
      exact within.addLine opened rfl within.faces fun _ => errorLine_ne_budgetLine _

/-- **A run stays within the limits**, by induction on its steps. -/
theorem Run.within (run : Run options source start words progress final) : progress.Within := by
  induction run with
  | nil => exact within_nil
  | snoc earlier step ih => exact step.within ih

/-! ## Why the budget line is there -/

/-- A step after which the budget line is there throws nothing: either it was there before and
nothing is added, or the dice of the word go over the budget. -/
theorem Step.of_budgetLine_mem (step : Step options source word progress state next final)
    (within : progress.Within) (budget : budgetLine ∈ next.found.lines) :
    final = state ∧ (next.found = progress.found ∨
      ∃ expression, (Query.ofWord word).parse options = .ok (some expression) ∧
        maxFacesPerMessage < progress.found.faces + expression.faces ∧
        next.found = progress.found.addLine budgetLine) := by
  cases step with
  | stopped stopped => exact ⟨rfl, .inl rfl⟩
  | full going long => exact ⟨rfl, .inl rfl⟩
  | plain opened parsed => exact ⟨rfl, .inl rfl⟩
  | overBudget opened parsed many => exact ⟨rfl, .inr ⟨_, parsed, many, rfl⟩⟩
  | rolled opened parsed few drawn =>
      exact absurd budget (within.budgetLine_not_mem opened (Result.text_ne_budgetLine _))
  | refused opened parsed =>
      exact absurd budget (within.budgetLine_not_mem opened (errorLine_ne_budgetLine _))

/-- The budget line goes back to a word that was looked at, and nothing has happened since. -/
theorem Run.exists_overBudget (run : Run options source start words progress final)
    (budget : budgetLine ∈ progress.found.lines) :
    ∃ before word after expression earlier,
      words = before ++ word :: after ∧
      (Query.ofWord word).parse options = .ok (some expression) ∧
      maxFacesPerMessage < progress.found.faces + expression.faces ∧
      Run options source start before earlier final ∧
      progress.found = earlier.found.addLine budgetLine := by
  induction run with
  | nil => exact absurd budget List.not_mem_nil
  | @snoc words word progress next state final run step ih =>
      obtain ⟨rfl, found | ⟨expression, parsed, many, found⟩⟩ :=
        step.of_budgetLine_mem run.within budget
      · rw [found] at budget ⊢
        obtain ⟨before, earliest, after, expression, earlier, rfl, facts⟩ := ih budget
        exact ⟨before, earliest, after ++ [word], expression, earlier, by simp, facts⟩
      · rw [found]
        exact ⟨words, word, [], expression, progress, rfl, parsed, many, run, rfl⟩

end Chat.Scan.Progress

/-- **A scan keeps its limits.** Each die thrown is counted, and there are not more than the budget
allows. The budget line can only be the last; then the dice of some word would have gone over the
budget, and neither this word nor those behind it changed anything but for that line. -/
theorem Chat.scan_within_limits {σ : Type} (options : Options) (source : Source σ)
    (content : String) (state : σ) :
    ∃ (progress : Scan.Progress) (final : σ) (thrown : Array Throw),
      (scan options source content).run state = (progress, final) ∧
      (scan options source.recording content).run (state, #[]) = (progress, final, thrown) ∧
      thrown.size = progress.found.faces ∧
      progress.found.faces ≤ maxFacesPerMessage ∧
      progress.found.lines.count budgetLine ≤ 1 ∧
      budgetLine ∉ progress.found.lines.dropLast ∧
      (budgetLine ∈ progress.found.lines →
        ∃ before word after expression earlier,
          Text.words content = before ++ word :: after ∧
          (Query.ofWord word).parse options = .ok (some expression) ∧
          maxFacesPerMessage < progress.found.faces + expression.faces ∧
          (scanWords options source.recording before).run (state, #[]) = (earlier, final, thrown) ∧
          progress.found = earlier.found.addLine budgetLine) ∧
      (progress.found.lines.dropLast.map fun line => line.utf8ByteSize + 1).sum ≤
        maxMessageLength := by
  rcases ran : (scan options source content).run state with ⟨progress, final⟩
  have run := run_scan_iff.mp ran
  obtain ⟨thrown, recorded, counted⟩ := run.recording
  have within := run.within
  refine ⟨progress, final, thrown, rfl, run_scan_iff.mpr recorded, counted, within.faces, ?_,
    within.last, ?_, within.length⟩
  · rcases List.eq_nil_or_concat' progress.found.lines with none | ⟨lines, line, lines_eq⟩
    · simp [none]
    · have absent := within.last
      rw [lines_eq, List.dropLast_concat] at absent
      rw [lines_eq, List.count_append, List.count_eq_zero.mpr absent, Nat.zero_add]
      exact List.count_le_length
  · intro budget
    obtain ⟨before, word, after, expression, earlier, split, parsed, many, run, found⟩ :=
      recorded.exists_overBudget budget
    exact ⟨before, word, after, expression, earlier, split, parsed, many,
      run_scanWords_iff.mpr run, found⟩

end DiceWords
