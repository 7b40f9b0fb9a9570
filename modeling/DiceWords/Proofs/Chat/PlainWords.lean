import DiceWords.Proofs.Chat.Answers
import DiceWords.Proofs.Chat.Resumption

/-! # Plain words are passed over

A plain word may be looked at when the reply is full, and then it stops the scan as any other word
would. Nothing can be seen of that but a line in the log: before and after the word, the same has
been found, and it is the same whether later words can still change anything
(`Scan.Progress.Alike`). So a scan that leaves the plain words out keeps up with one that looks at
them, and draws the same (`Run.exists_run_filter`). -/

namespace DiceWords.Chat

/-- Two lists of words that are the same but for plain words, which either may have anywhere. -/
inductive SameButPlain (options : Options) : List String → List String → Prop
  | nil : SameButPlain options [] []
  | both {words others : List String} (word : String) (rest : SameButPlain options words others) :
      SameButPlain options (word :: words) (word :: others)
  | left {word : String} {words others : List String}
      (plain : (Query.ofWord word).parse options = .ok none)
      (rest : SameButPlain options words others) : SameButPlain options (word :: words) others
  | right {word : String} {words others : List String}
      (plain : (Query.ofWord word).parse options = .ok none)
      (rest : SameButPlain options words others) : SameButPlain options words (word :: others)

/-- The words that ask are the same. -/
theorem SameButPlain.filter_eq {options : Options} {words others : List String}
    (same : SameButPlain options words others) :
    words.filter (asks options) = others.filter (asks options) := by
  induction same with
  | nil => rfl
  | both word rest ih => rw [List.filter_cons, List.filter_cons, ih]
  | left plain rest ih => rw [List.filter_cons_of_neg (not_asks_iff.mpr plain), ih]
  | right plain rest ih => rw [List.filter_cons_of_neg (not_asks_iff.mpr plain), ih]

namespace Scan.Progress

variable {σ : Type} {options : Options} {source : Source σ} {word : String} {words : List String}
  {progress next other : Progress} {state final start : σ}

/-- Two scans that have found the same, and that later words change or do not change alike. -/
structure Alike (progress other : Progress) : Prop where
  found : other.found = progress.found
  opened : other.Open ↔ progress.Open

theorem Alike.refl (progress : Progress) : progress.Alike progress where
  found := rfl
  opened := Iff.rfl

theorem Alike.trans {third : Progress} (first : progress.Alike other) (second : other.Alike third) :
    progress.Alike third where
  found := second.found.trans first.found
  opened := second.opened.trans first.opened

/-- Only the log may differ when the same has been found and both have stopped or go on. -/
theorem Alike.of_found_eq (found : other.found = progress.found)
    (stopped : other.stopped = progress.stopped) : progress.Alike other where
  found := found
  opened := by
    constructor
    · rintro ⟨going, room⟩
      rw [stopped] at going
      rw [found] at room
      exact ⟨going, room⟩
    · rintro ⟨going, room⟩
      rw [← stopped] at going
      rw [← found] at room
      exact ⟨going, room⟩

/-- Looking at a plain word does nothing that later words would notice. -/
theorem Step.alike_of_plain (step : Step options source word progress state next final)
    (plain : (Query.ofWord word).parse options = .ok none) :
    next.Alike progress ∧ final = state := by
  by_cases opened : progress.Open
  · have passed : Step options source word progress state progress state := .plain opened plain
    have same := step.run.symm.trans passed.run
    cases same
    exact ⟨.refl _, rfl⟩
  · obtain ⟨found, same, closed⟩ := step.found_eq_of_not_open opened
    exact ⟨⟨found.symm, iff_of_false opened closed⟩, same⟩

/-- **Scans that are alike take alike steps**, and draw the same. -/
theorem Step.exists_alike (step : Step options source word progress state next final)
    (alike : progress.Alike other) :
    ∃ nextOther, Step options source word other state nextOther final ∧ next.Alike nextOther := by
  by_cases opened : progress.Open
  · have openedOther := alike.opened.mpr opened
    cases step with
    | stopped stopped => exact absurd stopped opened.not_stopped
    | full going long => exact absurd long opened.not_full
    | plain _ parsed => exact ⟨_, .plain openedOther parsed, alike⟩
    | overBudget _ parsed many =>
        rw [← alike.found] at many
        refine ⟨_, .overBudget openedOther parsed many, .of_found_eq ?_ rfl⟩
        exact congrArg (Scan.addLine · budgetLine) alike.found
    | rolled _ parsed few drawn =>
        rw [← alike.found] at few
        refine ⟨_, .rolled openedOther parsed few drawn, .of_found_eq ?_ ?_⟩
        · exact congrArg (Scan.addResult · _ _) alike.found
        · exact openedOther.going.trans opened.going.symm
    | refused _ parsed =>
        refine ⟨_, .refused openedOther parsed, .of_found_eq ?_ ?_⟩
        · exact congrArg (Scan.addLine · _) alike.found
        · exact openedOther.going.trans opened.going.symm
  · have closedOther : ¬ other.Open := fun openedOther => opened (alike.opened.mp openedOther)
    obtain ⟨nextOther, last, stepOther⟩ := exists_step options source word other state
    obtain ⟨found, rfl, closed⟩ := step.found_eq_of_not_open opened
    obtain ⟨foundOther, rfl, closedToo⟩ := stepOther.found_eq_of_not_open closedOther
    exact ⟨nextOther, stepOther, foundOther.trans (alike.found.trans found.symm),
      iff_of_false closedToo closed⟩

/-- **A scan that leaves the plain words out keeps up.** -/
theorem Run.exists_run_filter (run : Run options source start words progress final) :
    ∃ other, Run options source start (words.filter (asks options)) other final ∧
      progress.Alike other := by
  induction run with
  | nil => exact ⟨{}, .nil, .refl _⟩
  | @snoc words word progress next state final earlier step ih =>
      obtain ⟨other, ran, alike⟩ := ih
      rw [List.filter_append]
      by_cases asked : asks options word
      · obtain ⟨nextOther, stepOther, alikeNext⟩ := step.exists_alike alike
        rw [List.filter_cons_of_pos asked, List.filter_nil]
        exact ⟨nextOther, .snoc ran stepOther, alikeNext⟩
      · obtain ⟨unnoticed, rfl⟩ := step.alike_of_plain (not_asks_iff.mp asked)
        rw [List.filter_cons_of_neg asked, List.filter_nil, List.append_nil]
        exact ⟨other, ran, unnoticed.trans alike⟩

end Scan.Progress

open Scan.Progress

/-- Scans of words that are the same but for plain words find the same and draw the same. -/
theorem SameButPlain.run_scanWords {σ : Type} {options : Options} {source : Source σ}
    {words others : List String} (same : SameButPlain options words others) {start final : σ}
    {progress : Scan.Progress}
    (ran : (scanWords options source words).run start = (progress, final)) :
    ∃ other, (scanWords options source others).run start = (other, final) ∧
      other.found = progress.found := by
  rcases ranOther : (scanWords options source others).run start with ⟨other, last⟩
  obtain ⟨kept, run, alike⟩ := (run_scanWords_iff.mp ran).exists_run_filter
  obtain ⟨keptOther, runOther, alikeOther⟩ := (run_scanWords_iff.mp ranOther).exists_run_filter
  rw [same.filter_eq] at run
  have ends := (run_scanWords_iff.mpr run).symm.trans (run_scanWords_iff.mpr runOther)
  cases ends
  exact ⟨other, rfl, alikeOther.found.symm.trans alike.found⟩

end DiceWords.Chat
