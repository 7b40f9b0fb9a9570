import DiceWords.Proofs.Chat.Limits
import DiceWords.Proofs.Text.Words

/-! # Taking up a scan again

A scan of a longer message begins with the scan of its first words and goes on from there: the
progress and the state of the source are all that is handed on. Later words only add to what has
been found (`Scan.Extends`), and once a limit has been met they add nothing, however short they
are (`Step.found_eq_of_not_open`). So blanks cut a message anywhere into a first scan and one that
takes it up (`scan_append`). -/

namespace DiceWords.Chat

/-- Whatever was found before is still there. -/
structure Scan.Extends (earlier later : Scan) : Prop where
  lines : earlier.lines <+: later.lines
  faces : earlier.faces ≤ later.faces
  extremes : earlier.extremes.toList ⊆ later.extremes.toList

namespace Scan.Extends

variable {found between later : Scan}

/-- A scan that goes on with nothing loses nothing. -/
theorem refl (found : Scan) : found.Extends found where
  lines := List.prefix_rfl
  faces := Nat.le_refl _
  extremes := List.Subset.refl _

/-- A scan that goes on twice goes on. -/
theorem trans (first : found.Extends between) (second : between.Extends later) :
    found.Extends later where
  lines := first.lines.trans second.lines
  faces := first.faces.trans second.faces
  extremes := List.Subset.trans first.extremes second.extremes

/-- One more line keeps all that was found. -/
theorem addLine (found : Scan) (line : String) : found.Extends (found.addLine line) where
  lines := List.prefix_append _ _
  faces := Nat.le_refl _
  extremes := List.Subset.refl _

/-- One more result keeps all that was found. -/
theorem addResult (found : Scan) (faces : Nat) (result : Result) :
    found.Extends (found.addResult faces result) where
  lines := List.prefix_append _ _
  faces := Nat.le_add_right _ _
  extremes := fun _ member => Extremes.mem_toList_union_iff.mpr (.inl member)

end Scan.Extends

namespace Scan.Progress

variable {σ : Type} {options : Options} {source : Source σ} {word : String} {words : List String}
  {progress next : Progress} {state final : σ}

/-! ## One more word -/

/-- **A step loses nothing that was found.** -/
theorem Step.extends (step : Step options source word progress state next final) :
    progress.found.Extends next.found := by
  cases step with
  | stopped stopped => exact .refl _
  | full going long => exact .refl _
  | plain opened parsed => exact .refl _
  | overBudget opened parsed many => exact .addLine _ _
  | rolled opened parsed few drawn => exact .addResult _ _ _
  | refused opened parsed => exact .addLine _ _

/-- Once a limit has been met, a word changes nothing, and no limit is lifted again. -/
theorem Step.found_eq_of_not_open (step : Step options source word progress state next final)
    (closed : ¬ progress.Open) : next.found = progress.found ∧ final = state ∧ ¬ next.Open := by
  cases step with
  | stopped stopped => exact ⟨rfl, rfl, closed⟩
  | full going long => exact ⟨rfl, rfl, fun opened => Bool.false_ne_true opened.going.symm⟩
  | plain opened parsed => exact absurd opened closed
  | overBudget opened parsed many => exact absurd opened closed
  | rolled opened parsed few drawn => exact absurd opened closed
  | refused opened parsed => exact absurd opened closed

/-! ## More words -/

/-- Go on with more words. -/
def resume (options : Options) (source : Source σ) (progress : Progress) (words : List String) :
    StateM σ Progress :=
  words.foldlM (step options source) progress

/-- A scan that goes on with some words, from any progress it may have made. -/
inductive Resumed (options : Options) (source : Source σ) :
    List String → Progress → σ → Progress → σ → Prop
  | nil {progress : Progress} {state : σ} :
      Resumed options source [] progress state progress state
  | cons {word : String} {rest : List String} {progress next last : Progress}
      {state between final : σ} (step : Step options source word progress state next between)
      (later : Resumed options source rest next between last final) :
      Resumed options source (word :: rest) progress state last final

/-- Words are scanned from the left, each from the progress that the one before has left. -/
theorem run_resume_cons (options : Options) (source : Source σ) (progress : Progress)
    (word : String) (rest : List String) (state : σ) :
    (progress.resume options source (word :: rest)).run state =
      let (next, between) := (progress.step options source word).run state
      (next.resume options source rest).run between := by
  rw [resume, List.foldlM_cons]
  rfl

/-- To take a scan up again is to make its steps. -/
theorem run_resume_iff :
    (progress.resume options source words).run state = (next, final) ↔
      Resumed options source words progress state next final := by
  constructor
  · intro ran
    induction words generalizing progress state with
    | nil =>
        cases ran
        exact .nil
    | cons word rest ih =>
        rcases first : (progress.step options source word).run state with ⟨later, between⟩
        rw [run_resume_cons, first] at ran
        exact .cons (run_step_iff.mp first) (ih ran)
  · intro resumed
    induction resumed with
    | nil => rfl
    | cons step later ih =>
        rw [run_resume_cons, step.run]
        exact ih

namespace Resumed

/-- **A scan that is taken up again loses nothing that was found.** -/
theorem extended (resumed : Resumed options source words progress state next final) :
    progress.found.Extends next.found := by
  induction resumed with
  | nil => exact .refl _
  | cons step later ih => exact step.extends.trans ih

/-- A source that keeps a record makes the same steps, and the record grows. -/
theorem recording (resumed : Resumed options source words progress state next final)
    (thrown : Array Throw) :
    ∃ more : Array Throw,
      Resumed options source.recording words progress (state, thrown) next
        (final, thrown ++ more) := by
  induction resumed generalizing thrown with
  | nil =>
      refine ⟨#[], ?_⟩
      rw [Array.append_empty]
      exact .nil
  | cons step later ih =>
      obtain ⟨own, recorded, -⟩ := step.recording thrown
      obtain ⟨more, others⟩ := ih (thrown ++ own.toArray)
      refine ⟨own.toArray ++ more, ?_⟩
      rw [← Array.append_assoc]
      exact .cons recorded others

/-- **A scan that has met a limit finds nothing more** and leaves the source alone. -/
theorem found_eq_of_not_open (resumed : Resumed options source words progress state next final)
    (closed : ¬ progress.Open) : next.found = progress.found ∧ final = state := by
  induction resumed with
  | nil => exact ⟨rfl, rfl⟩
  | cons step later ih =>
      obtain ⟨found, same, stillClosed⟩ := step.found_eq_of_not_open closed
      obtain ⟨foundLater, sameLater⟩ := ih stillClosed
      exact ⟨foundLater.trans found, sameLater.trans same⟩

end Resumed

/-! ## A limit that has been met -/

/-- A scan that holds the budget line, or whose lines are too long, has met a limit. -/
theorem Run.not_open {start : σ} (run : Run options source start words progress final)
    (limit : budgetLine ∈ progress.found.lines ∨
      maxMessageLength < (progress.found.lines.map fun line => line.utf8ByteSize + 1).sum) :
    ¬ progress.Open := by
  intro opened
  cases limit with
  | inl budget => exact run.within.going opened.going budget
  | inr long =>
      rw [List.sum_eq_foldr] at long
      exact opened.not_full long

end Scan.Progress

open Scan.Progress

variable {σ : Type}

/-- A scan of two lists of words is a scan of the first that is taken up again with the second. -/
theorem run_scanWords_append (options : Options) (source : Source σ) (first second : List String)
    (start : σ) :
    (scanWords options source (first ++ second)).run start =
      let (earlier, between) := (scanWords options source first).run start
      (earlier.resume options source second).run between := by
  rw [scanWords, List.foldlM_append]
  rfl

/-- **A scan can be taken up again, and later words never change earlier ones.** Blanks cut a
message in two. Scanning the whole is scanning the first part and going on with the words of the
second, from the progress and the state of the source that the first has left. Its lines and its
throws begin with those of the first part, no die and no end of a die is lost, and when the first
part has met a limit the whole finds and throws the same. -/
theorem scan_append (options : Options) (source : Source σ) (first second : String)
    {blanks : String} (nonempty : blanks ≠ "") (blank : Text.isAllBlank blanks = true) (state : σ) :
    ∃ (earlier progress : Scan.Progress) (between final : σ) (thrown more : Array Throw),
      (scan options source first).run state = (earlier, between) ∧
      (earlier.resume options source (Text.words second)).run between = (progress, final) ∧
      (scan options source (first ++ blanks ++ second)).run state = (progress, final) ∧
      (scan options source.recording first).run (state, #[]) = (earlier, between, thrown) ∧
      (scan options source.recording (first ++ blanks ++ second)).run (state, #[]) =
        (progress, final, thrown ++ more) ∧
      earlier.found.lines <+: progress.found.lines ∧
      earlier.found.faces ≤ progress.found.faces ∧
      earlier.found.extremes.toList ⊆ progress.found.extremes.toList ∧
      (budgetLine ∈ earlier.found.lines ∨
          maxMessageLength < (earlier.found.lines.map fun line => line.utf8ByteSize + 1).sum →
        progress.found = earlier.found ∧ more = #[] ∧ final = between) := by
  have words : Text.words (first ++ blanks ++ second) = Text.words first ++ Text.words second :=
    Text.words_append_blanks nonempty blank first second
  rcases ran : (scan options source first).run state with ⟨earlier, between⟩
  rcases later : (earlier.resume options source (Text.words second)).run between
    with ⟨progress, final⟩
  have run := run_scan_iff.mp ran
  have resumed := run_resume_iff.mp later
  obtain ⟨thrown, recorded, -⟩ := run.recording
  obtain ⟨more, recordedLater⟩ := resumed.recording thrown
  have extended := resumed.extended
  have ranRecording := run_scan_iff.mpr recorded
  refine ⟨earlier, progress, between, final, thrown, more, rfl, later, ?_, ranRecording, ?_,
    extended.lines, extended.faces, extended.extremes, ?_⟩
  · rw [scan_eq_scanWords, words, run_scanWords_append, ← scan_eq_scanWords, ran]
    exact later
  · rw [scan_eq_scanWords, words, run_scanWords_append, ← scan_eq_scanWords, ranRecording]
    exact run_resume_iff.mpr recordedLater
  · intro limit
    have closed := run.not_open limit
    obtain ⟨found, same⟩ := resumed.found_eq_of_not_open closed
    obtain ⟨-, sameRecord⟩ := recordedLater.found_eq_of_not_open closed
    refine ⟨found, ?_, same⟩
    have record : thrown ++ more = thrown := congrArg Prod.snd sameRecord
    exact Array.append_right_eq_self.mp record

/-- Dice behind dice, and dice behind a word that goes over the budget, with every draw an `8`: the
first are thrown, the second are not. -/
theorem scan_append_within_and_over_budget :
    let eights : Source Unit := { draw := fun _ => pure 8 }
    "\u2003\n" ≠ "" ∧ Text.isAllBlank "\u2003\n" = true ∧
      (∃ (earlier progress : Scan.Progress) (thrown more : Array Throw),
        (scan {} eights.recording "1f").run ((), #[]) = (earlier, (), thrown) ∧
        (scan {} eights.recording ("1f" ++ "\u2003\n" ++ "2r")).run ((), #[]) =
          (progress, (), thrown ++ more) ∧
        earlier.found.lines = ["`1f` `[2]` = **2**"] ∧
        progress.found.lines = ["`1f` `[2]` = **2**", "`2r` `[-1, -1]` = **-2**"] ∧
        earlier.found.lines <+: progress.found.lines ∧
        thrown = #[Die.f.throw] ∧ thrown ++ more = #[Die.f.throw, Die.r.throw, Die.r.throw]) ∧
      ∃ (earlier progress : Scan.Progress) (thrown : Array Throw),
        (scan {} eights.recording "1f 100#5000t").run ((), #[]) = (earlier, (), thrown) ∧
        (scan {} eights.recording ("1f 100#5000t" ++ "\u2003\n" ++ "1f")).run ((), #[]) =
          (progress, (), thrown) ∧
        earlier.found.lines.getLast? = some budgetLine ∧ progress.found = earlier.found := by
  intro eights
  have nonempty : "\u2003\n" ≠ "" := by decide
  have blank : Text.isAllBlank "\u2003\n" = true := by decide
  refine ⟨nonempty, blank, ?_, ?_⟩
  · obtain ⟨earlier, progress, _, _, thrown, more, -, -, -, recorded, whole, lines, -⟩ :=
      scan_append {} eights "1f" "2r" nonempty blank ()
    have first : ((scan {} eights.recording "1f").run ((), #[])).1.found.lines =
          ["`1f` `[2]` = **2**"] ∧
        ((scan {} eights.recording "1f").run ((), #[])).2.2 = #[Die.f.throw] := by
      decide +kernel
    have both :
        ((scan {} eights.recording ("1f" ++ "\u2003\n" ++ "2r")).run ((), #[])).1.found.lines =
          ["`1f` `[2]` = **2**", "`2r` `[-1, -1]` = **-2**"] ∧
        ((scan {} eights.recording ("1f" ++ "\u2003\n" ++ "2r")).run ((), #[])).2.2 =
          #[Die.f.throw, Die.r.throw, Die.r.throw] := by
      decide +kernel
    rw [recorded] at first
    rw [whole] at both
    exact ⟨earlier, progress, thrown, more, recorded, whole, first.1, both.1, lines, first.2,
      both.2⟩
  obtain ⟨earlier, progress, _, _, thrown, more, ran, -, -, recorded, whole, -, -, -, limit⟩ :=
    scan_append {} eights "1f 100#5000t" "1f" nonempty blank ()
  have last : earlier.found.lines.getLast? = some budgetLine := by
    have run : ((scan {} eights "1f 100#5000t").run ()).1.found.lines.getLast? =
        some budgetLine := by
      decide +kernel
    rwa [ran] at run
  obtain ⟨found, rfl, -⟩ := limit (.inl (List.mem_of_getLast? last))
  exact ⟨earlier, progress, thrown, recorded, whole, last, found⟩

end DiceWords.Chat
