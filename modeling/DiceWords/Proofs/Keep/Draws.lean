import DiceWords.Proofs.Keep.Window
import DiceWords.Proofs.Query.Draws
import Mathlib.Algebra.BigOperators.Group.List.Basic

/-! # Keep clauses and draws

A clause that keeps the highest dice of a roll and one that keeps the others as the lowest mark the
same faces the opposite way, so their sums make up the sum of the whole roll. And since faces of one
kind of die are told apart by their values, a clause makes the same of any draws in any order
(`Spec.facesOf_perm`). -/

namespace DiceWords

/-! ## Windows that tile a roll -/

namespace Keep

open Face (look)

/-- The marks at the two ends are opposite to each other. -/
theorem Side.map_not_marks_high (kept dropped : Nat) :
    (Side.high.marks kept dropped).map (! ·) = Side.low.marks dropped kept := by
  simp only [marks, List.map_append, List.map_replicate, Bool.not_true, Bool.not_false]

variable {faces : List Face} {count : Nat}

/-- The lowest faces are marked where the highest are not. -/
theorem map_kept_apply_low (within : count ≤ faces.length) :
    ((Keep.mk .low (faces.length - count)).apply faces).map Face.kept =
      ((Keep.mk .high count).apply faces).map fun face => !face.kept := by
  have marked := map_kept_apply ⟨.high, count⟩ faces
  have opposite : ((Keep.mk .high count).apply faces).map (fun face => !face.kept) =
      (((Keep.mk .high count).apply faces).map Face.kept).map (! ·) := by
    rw [List.map_map]
    rfl
  have kept : min count faces.length = count := by omega
  have others : min (faces.length - count) faces.length = faces.length - count := by omega
  have rest : faces.length - (faces.length - count) = count := by omega
  rw [opposite, marked, Side.map_not_marks_high, map_kept_apply, kept, others, rest]

/-- The two windows hold each face once. -/
theorem sum_window_high_add_low (faces : List Face) (count : Nat) :
    (((Keep.mk .high count).window faces).map Face.value).sum +
      (((Keep.mk .low (faces.length - count)).window faces).map Face.value).sum =
        (faces.map Face.value).sum := by
  rw [Int.add_comm]
  simp only [window]
  rw [← List.sum_append, ← List.map_append, List.take_append_drop]
  exact ((sorted_perm faces).map Face.value).sum_eq

/-- Faces that are told apart by their values are sorted in one way only. -/
theorem apply_eq_of_perm (keep : Keep) {others : List Face} (same : faces.Perm others)
    (apart : ∀ face ∈ faces, ∀ other ∈ faces, face.value = other.value → face = other) :
    keep.apply faces = keep.apply others := by
  have sorts : sorted faces = sorted others := by
    have permuted : (sorted faces).Perm (sorted others) :=
      (sorted_perm faces).trans (same.trans (sorted_perm others).symm)
    apply List.Perm.eq_of_pairwise _ (pairwise_sorted faces) (pairwise_sorted others) permuted
    intro face other member member' below above
    have thrown := (sorted_perm faces).mem_iff.mp member
    have thrown' := same.mem_iff.mpr ((sorted_perm others).mem_iff.mp member')
    exact apart face thrown other thrown' (Int.le_antisymm below above)
  unfold apply
  rw [sorts]

end Keep

/-! ## Rolls under different clauses -/

namespace Spec

/-- The faces as they are thrown, before a clause is applied. -/
def thrown (spec : Spec) (draws : List Int) : List Face :=
  draws.map fun draw => Face.ofDie spec.die (draw - spec.die.offset)

/-- Each draw is one face. -/
theorem length_thrown (spec : Spec) (draws : List Int) :
    (spec.thrown draws).length = draws.length :=
  List.length_map _

/-- A face that is thrown counts. -/
theorem filter_kept_thrown (spec : Spec) (draws : List Int) :
    (spec.thrown draws).filter Face.kept = spec.thrown draws := by
  apply List.filter_eq_self.mpr
  intro face member
  obtain ⟨draw, -, rfl⟩ := List.mem_map.mp member
  rfl

/-- What is thrown is told apart by its value. -/
theorem eq_of_mem_thrown {spec : Spec} {draws : List Int} {face other : Face}
    (member : face ∈ spec.thrown draws) (member' : other ∈ spec.thrown draws)
    (equal : face.value = other.value) : face = other := by
  obtain ⟨draw, -, rfl⟩ := List.mem_map.mp member
  obtain ⟨draw', -, rfl⟩ := List.mem_map.mp member'
  exact congrArg (Face.ofDie spec.die) equal

/-- **Under a keep clause the order of the draws does not matter.** -/
theorem apply_thrown_perm (spec : Spec) (keep : Keep) {draws others : List Int}
    (same : draws.Perm others) :
    keep.apply (spec.thrown draws) = keep.apply (spec.thrown others) := by
  apply keep.apply_eq_of_perm (same.map _)
  intro face member other member' equal
  exact eq_of_mem_thrown member member' equal

end Spec

namespace Term

/-- The term with another keep clause, or with none. -/
def withKeep (term : Term) (keep : Option Keep) : Term :=
  { term with spec := { term.spec with keep } }

variable {σ τ : Type} {term : Term} {source : Source σ} {state final : σ} {draws : List Int}

/-- Under any clause the same dice are drawn. -/
theorem run_roll_withKeep
    (drawn : (source.drawMany term.spec.amount term.spec.die.throw).run state = (draws, final))
    (keep : Option Keep) (sign : Sign) :
    ((term.withKeep keep).roll source sign).run state =
      ((Link.mk sign (term.withKeep keep)).outcomeOf draws, final) := by
  have thrown : ((Link.mk sign (term.withKeep keep)).throws.mapM source.draw).run state =
      (draws, final) := drawn
  exact Link.run_roll thrown

/-- Under a clause the faces are those that it makes of the throw. -/
theorem faces_withKeep (term : Term) (keep : Keep) (sign : Sign) (draws : List Int) :
    ((Link.mk sign (term.withKeep (some keep))).outcomeOf draws).faces =
      keep.apply (term.spec.thrown draws) :=
  rfl

/-- Without a clause the faces are those of the throw. -/
theorem faces_withKeep_none (term : Term) (sign : Sign) (draws : List Int) :
    ((Link.mk sign (term.withKeep none)).outcomeOf draws).faces = term.spec.thrown draws :=
  rfl

/-- A clause keeps as many dice as it says, or all of them. -/
theorem length_kept_withKeep (term : Term) (keep : Keep) (sign : Sign) (draws : List Int) :
    ((Link.mk sign (term.withKeep (some keep))).outcomeOf draws).kept.length =
      min keep.count draws.length := by
  rw [Outcome.kept, faces_withKeep, Keep.map_value_filter_kept_apply, List.length_map,
    Keep.length_window, Spec.length_thrown]

/-- Without a clause all dice are kept. -/
theorem kept_withKeep_none (term : Term) (sign : Sign) (draws : List Int) :
    ((Link.mk sign (term.withKeep none)).outcomeOf draws).kept =
      ((Link.mk sign (term.withKeep none)).outcomeOf draws).rolls := by
  rw [Outcome.kept, Outcome.rolls, faces_withKeep_none, Spec.filter_kept_thrown]

/-- **Keep clauses split a roll, and the order of the draws does not matter.** When a term is thrown
with a clause that keeps some of its dice as the highest, with one that keeps the others as the
lowest, and with none, each time with the same draws, the third shows the values of these draws as
they come and counts them all. The first two show the same faces in ascending order, count as many
of them as their clauses say and mark them the opposite way, and their sums add up to that of the
third. A term with a keep clause has the same outcome whenever the same draws come, whatever their
order. -/
theorem roll_keep_clauses (term : Term) (sign : Sign) (source : Source σ) (state : σ) :
    (∀ count ≤ term.spec.amount, ∃ (draws : List Int) (high low bare : Outcome) (final : σ),
      (source.drawMany term.spec.amount term.spec.die.throw).run state = (draws, final) ∧
      draws.length = term.spec.amount ∧
      ((term.withKeep (some ⟨.high, count⟩)).roll source sign).run state = (high, final) ∧
      ((term.withKeep (some ⟨.low, term.spec.amount - count⟩)).roll source sign).run state =
        (low, final) ∧
      ((term.withKeep none).roll source sign).run state = (bare, final) ∧
      bare.rolls = draws.map (· - term.spec.die.offset) ∧ bare.kept = bare.rolls ∧
      high.rolls.Perm (draws.map (· - term.spec.die.offset)) ∧
      high.kept.length = count ∧ low.kept.length = term.spec.amount - count ∧
      high.faces.map Face.look = low.faces.map Face.look ∧
      high.rolls.Pairwise (· ≤ ·) ∧
      low.faces.map Face.kept = high.faces.map (fun face => !face.kept) ∧
      high.sum + low.sum = bare.sum) ∧
    ∀ (keep : Keep) (other : Source τ) (state' : τ),
      ((source.drawMany term.spec.amount term.spec.die.throw).run state).1.Perm
        ((other.drawMany term.spec.amount term.spec.die.throw).run state').1 →
      (((term.withKeep (some keep)).roll source sign).run state).1 =
        (((term.withKeep (some keep)).roll other sign).run state').1 := by
  rcases drawn : (source.drawMany term.spec.amount term.spec.die.throw).run state with
    ⟨draws, final⟩
  have size : draws.length = term.spec.amount := by
    rw [length_eq_of_run_mapM drawn, List.length_replicate]
  constructor
  · intro count within
    have enough : term.spec.amount = (term.spec.thrown draws).length := by
      rw [Spec.length_thrown, size]
    have shown (keep : Option Keep) := (Link.mk sign (term.withKeep keep)).shows_outcomeOf size
    refine ⟨draws, _, _, _, final, rfl, size, run_roll_withKeep drawn _ sign,
      run_roll_withKeep drawn _ sign, run_roll_withKeep drawn _ sign, (shown none).drawOrder rfl,
      kept_withKeep_none term sign draws, (shown (some ⟨.high, count⟩)).values, ?_, ?_, ?_,
      (shown (some ⟨.high, count⟩)).ascending rfl, ?_, ?_⟩
    · rw [length_kept_withKeep, size]
      exact Nat.min_eq_left within
    · rw [length_kept_withKeep, size]
      exact Nat.min_eq_left (Nat.sub_le _ _)
    · rw [faces_withKeep, faces_withKeep, Keep.map_look_apply, Keep.map_look_apply]
    · rw [enough] at within
      rw [faces_withKeep, faces_withKeep, enough]
      exact Keep.map_kept_apply_low within
    · rw [Outcome.sum_eq_sum_kept, Outcome.sum_eq_sum_kept, Outcome.sum_eq_sum_kept,
        faces_withKeep, faces_withKeep, faces_withKeep_none, Keep.map_value_filter_kept_apply,
        Keep.map_value_filter_kept_apply, Spec.filter_kept_thrown, enough]
      exact Keep.sum_window_high_add_low _ count
  · intro keep other state' same
    rcases drawn' : (other.drawMany term.spec.amount term.spec.die.throw).run state' with
      ⟨others, final'⟩
    rw [drawn'] at same
    rw [run_roll_withKeep drawn, run_roll_withKeep drawn']
    have faces := term.spec.apply_thrown_perm keep same
    rw [← faces_withKeep term keep sign, ← faces_withKeep term keep sign] at faces
    let shown (faces : List Face) : Outcome :=
      { faces, modifier := term.spec.modifier, source := term.source, sign }
    exact congrArg shown faces

/-- Three dice with the draws `4`, `15` and `9`, and the same draws in another order. -/
theorem roll_keep_clauses_three_dice :
    let term : Term := {
      repeats := none, spec := ⟨3, .r, none, some 2⟩, source := "3r+2", length := 4 }
    let listed : Source (List Int) := { draw := fun _ draws => (draws.headD 1, draws.tail) }
    (2 ≤ term.spec.amount ∧ ∃ (high low bare : Outcome) (final : List Int),
      ((term.withKeep (some ⟨.high, 2⟩)).roll listed .plus).run [4, 15, 9] = (high, final) ∧
      ((term.withKeep (some ⟨.low, 1⟩)).roll listed .plus).run [4, 15, 9] = (low, final) ∧
      ((term.withKeep none).roll listed .plus).run [4, 15, 9] = (bare, final) ∧
      bare.rolls = [-5, 6, 0] ∧ high.rolls.Perm [-5, 6, 0] ∧ high.rolls.Pairwise (· ≤ ·) ∧
      high.kept.length = 2 ∧ low.kept.length = 1 ∧ bare.sum = 1 ∧ high.sum + low.sum = 1) ∧
    (((listed.drawMany 3 Die.r.throw).run [4, 15, 9]).1.Perm
        ((listed.drawMany 3 Die.r.throw).run [15, 9, 4]).1 ∧
      (((term.withKeep (some ⟨.high, 2⟩)).roll listed .plus).run [4, 15, 9]).1 =
        (((term.withKeep (some ⟨.high, 2⟩)).roll listed .plus).run [15, 9, 4]).1) := by
  intro term listed
  have split := roll_keep_clauses (τ := List Int) term .plus listed [4, 15, 9]
  have permuted : ((listed.drawMany 3 Die.r.throw).run [4, 15, 9]).1.Perm
      ((listed.drawMany 3 Die.r.throw).run [15, 9, 4]).1 := by decide
  refine ⟨⟨by decide, ?_⟩, permuted, split.2 _ listed [15, 9, 4] permuted⟩
  obtain ⟨draws, high, low, bare, final, drawn, -, thrown, thrown', thrown'', values, -, permutes,
    two, one, -, ascending, -, sums⟩ := split.1 2 (by decide)
  obtain rfl : _ = draws := congrArg Prod.fst drawn
  have shown : _ = bare := congrArg Prod.fst thrown''
  have sum : bare.sum = 1 := by
    rw [← shown]
    decide
  exact ⟨high, low, bare, final, thrown, thrown', thrown'', values, permutes, ascending, two, one,
    sum, sums.trans sum⟩

end Term

end DiceWords
