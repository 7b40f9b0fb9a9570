import DiceWords.Proofs.Keep.Window
import Mathlib.Algebra.BigOperators.Group.List.Basic
import Mathlib.Algebra.Ring.Int.Defs
import Mathlib.Data.List.Perm.Subperm
import Mathlib.Order.Bounds.Basic

/-! # The best dice are kept

Of all ways to pick as many faces as a clause keeps, its own has the largest sum when it keeps the
highest faces, and the smallest sum when it keeps the lowest (`Keep.isGreatest_window`,
`Keep.isLeast_window`). Among ascending values this is an induction on the choice. The smallest sum
follows from the largest: what a choice leaves out is a choice as well. -/

namespace DiceWords.Keep

/-! ## Choices among ascending values -/

/-- No choice among ascending values has a larger sum than as many values at the upper end. -/
theorem sum_le_sum_drop {values chosen : List Int} (part : chosen.Sublist values)
    (ascending : values.Pairwise (· ≤ ·)) :
    chosen.sum ≤ (values.drop (values.length - chosen.length)).sum := by
  induction part with
  | slnil => exact Int.le_refl _
  | @cons chosen rest value part ih =>
      have shorter := part.length_le
      have beyond : (value :: rest).length - chosen.length = rest.length - chosen.length + 1 := by
        rw [List.length_cons]
        omega
      rw [beyond, List.drop_succ_cons]
      exact ih ascending.of_cons
  | @cons_cons chosen rest value part ih =>
      have shorter := part.length_le
      have skipped : (value :: rest).length - (value :: chosen).length =
          rest.length - chosen.length := by
        rw [List.length_cons, List.length_cons]
        omega
      have inside : rest.length - chosen.length < (value :: rest).length := by
        rw [List.length_cons]
        omega
      -- the first value is at most the one that the upper end begins with
      have least : value ≤ (value :: rest)[rest.length - chosen.length] := by
        rcases List.mem_cons.mp (List.getElem_mem inside) with same | behind
        · exact Int.le_of_eq same.symm
        · exact (List.pairwise_cons.mp ascending).1 _ behind
      calc (value :: chosen).sum
          = value + chosen.sum := List.sum_cons
        _ ≤ (value :: rest)[rest.length - chosen.length] +
              (rest.drop (rest.length - chosen.length)).sum :=
            Int.add_le_add least (ih ascending.of_cons)
        _ = ((value :: rest).drop ((value :: rest).length - (value :: chosen).length)).sum := by
            rw [skipped, List.drop_eq_getElem_cons inside, List.sum_cons, List.drop_succ_cons]

/-! ## Choices among faces -/

/-- The sums that so many of the faces can have. -/
def sums (faces : List Face) (count : Nat) : Set Int :=
  {sum | ∃ chosen : List Face, chosen.Sublist faces ∧ chosen.length = count ∧
    (chosen.map Face.value).sum = sum}

/-- **No faces add up to more than as many of the highest.** -/
theorem sum_le_sum_drop_sorted {faces chosen : List Face} (part : chosen.Subperm faces) :
    (chosen.map Face.value).sum ≤
      (((sorted faces).drop (faces.length - chosen.length)).map Face.value).sum := by
  obtain ⟨others, same, part⟩ := part.trans (sorted_perm faces).symm.subperm
  have ascending : ((sorted faces).map Face.value).Pairwise (· ≤ ·) :=
    (pairwise_sorted faces).map Face.value fun _ _ ordered => ordered
  have bound := sum_le_sum_drop (part.map Face.value) ascending
  rw [(same.map Face.value).sum_eq, List.length_map, List.length_map, same.length_eq,
    length_sorted, ← List.map_drop] at bound
  exact bound

/-- What a choice leaves out is a choice, so the largest sum bounds the smallest. -/
theorem sum_take_sorted_le_sum {faces chosen : List Face} (part : chosen.Sublist faces) :
    (((sorted faces).take chosen.length).map Face.value).sum ≤ (chosen.map Face.value).sum := by
  obtain ⟨others, whole⟩ := part.exists_perm_append
  have lengths := whole.length_eq
  rw [List.length_append] at lengths
  have left : others.Subperm faces :=
    (List.sublist_append_right chosen others).subperm.trans whole.symm.subperm
  have bound := sum_le_sum_drop_sorted left
  have count : faces.length - others.length = chosen.length := by omega
  rw [count] at bound
  have total : (((sorted faces).take chosen.length).map Face.value).sum +
      (((sorted faces).drop chosen.length).map Face.value).sum =
        (chosen.map Face.value).sum + (others.map Face.value).sum := by
    rw [← List.sum_append, ← List.map_append, List.take_append_drop, ← List.sum_append,
      ← List.map_append]
    exact (((sorted_perm faces).trans whole).map Face.value).sum_eq
  omega

/-- The faces in the window can be picked. -/
theorem sum_window_mem_sums (keep : Keep) (faces : List Face) :
    ((keep.window faces).map Face.value).sum ∈ sums faces (min keep.count faces.length) := by
  have inside : (keep.window faces).Subperm faces :=
    (keep.window_sublist faces).subperm.trans (sorted_perm faces).subperm
  obtain ⟨chosen, same, part⟩ := inside
  refine ⟨chosen, part, ?_, (same.map Face.value).sum_eq⟩
  rw [same.length_eq, length_window]

/-- The window at the high end has the greatest sum that so many faces can have. -/
theorem isGreatest_window (count : Nat) (faces : List Face) :
    IsGreatest (sums faces (min count faces.length))
      (((Keep.mk .high count).window faces).map Face.value).sum := by
  refine ⟨sum_window_mem_sums ⟨.high, count⟩ faces, ?_⟩
  rintro _ ⟨chosen, part, size, rfl⟩
  have bound := sum_le_sum_drop_sorted part.subperm
  have dropped : faces.length - chosen.length = faces.length - count := by omega
  rwa [dropped] at bound

/-- The window at the low end has the least sum that so many faces can have. -/
theorem isLeast_window (count : Nat) (faces : List Face) :
    IsLeast (sums faces (min count faces.length))
      (((Keep.mk .low count).window faces).map Face.value).sum := by
  refine ⟨sum_window_mem_sums ⟨.low, count⟩ faces, ?_⟩
  rintro _ ⟨chosen, part, size, rfl⟩
  have bound := sum_take_sorted_le_sum part
  rw [size, ← length_sorted faces, ← List.take_eq_take_min] at bound
  exact bound

/-- **A keep clause keeps the right dice.** The faces come in their stable ascending order and show
what they showed before. As many of them are kept as the clause says, or all of them if there are
not so many: those at the end that the clause names, whatever the marks were before. No choice of
so many faces has a larger sum than the highest, and none a smaller sum than the lowest. Applying
the clause again changes nothing. -/
theorem apply_keeps_best (keep : Keep) (faces : List Face) :
    let result := keep.apply faces
    let count := min keep.count faces.length
    Face.StableSort faces result ∧
    result.map Face.kept = keep.side.marks count (faces.length - count) ∧
    result.countP Face.kept = count ∧
    (match keep.side with
      | .high => IsGreatest (sums faces count) ((result.filter Face.kept).map Face.value).sum
      | .low => IsLeast (sums faces count) ((result.filter Face.kept).map Face.value).sum) ∧
    keep.apply result = result := by
  intro result count
  have dropped : faces.length - keep.count = faces.length - count := by omega
  have marks : result.map Face.kept = keep.side.marks count (faces.length - count) := by
    rw [← dropped]
    exact keep.map_kept_apply faces
  refine ⟨keep.stableSort_apply faces, marks, ?_, ?_, keep.apply_apply faces⟩
  · rw [← keep.side.count_marks count (faces.length - count), ← marks, List.count, List.countP_map]
    apply List.countP_congr
    simp
  · rw [keep.map_value_filter_kept_apply faces]
    obtain ⟨side, number⟩ := keep
    cases side with
    | high => exact isGreatest_window number faces
    | low => exact isLeast_window number faces

end DiceWords.Keep
