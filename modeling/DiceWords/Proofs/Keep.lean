import DiceWords.Keep

/-! # Keeping dice keeps their values

A keep clause moves faces and marks them, and changes no value: the values come out as those of the
stable ascending sort, which are the values that went in. -/

namespace DiceWords

namespace Face

/-- The order of faces is transitive. -/
theorem isLE_order_trans (first second third : Face) :
    (first.order second).isLE → (second.order third).isLE → (first.order third).isLE := by
  rw [isLE_order, isLE_order, isLE_order]
  exact Int.le_trans

/-- Of two faces one is not above the other. -/
theorem isLE_order_total (first second : Face) :
    ((first.order second).isLE || (second.order first).isLE) = true := by
  rw [Bool.or_eq_true, isLE_order, isLE_order]
  exact Int.le_total first.value second.value

end Face

namespace Keep

/-- Sorting loses no face and adds none. -/
theorem sorted_perm (faces : List Face) : (sorted faces).Perm faces :=
  List.mergeSort_perm _ _

/-- Sorted faces ascend. -/
theorem pairwise_sorted (faces : List Face) :
    (sorted faces).Pairwise fun left right => left.value ≤ right.value := by
  have ordered := List.pairwise_mergeSort Face.isLE_order_trans Face.isLE_order_total faces
  exact ordered.imp Face.isLE_order.mp

/-- Marking faces changes no value. -/
@[simp] theorem map_value_setKept (kept : Bool) (faces : List Face) :
    (setKept kept faces).map Face.value = faces.map Face.value := by
  rw [setKept, List.map_map]
  rfl

/-- The marks are all that a keep clause adds to the sort. -/
theorem map_value_apply (keep : Keep) (faces : List Face) :
    (keep.apply faces).map Face.value = (sorted faces).map Face.value := by
  obtain ⟨side, count⟩ := keep
  cases side with
  | high =>
      simp only [apply, List.map_append, map_value_setKept]
      rw [← List.map_append, List.take_append_drop]
  | low =>
      simp only [apply, List.map_append, map_value_setKept]
      rw [← List.map_append, List.take_append_drop]

/-- A keep clause loses no value and adds none. -/
theorem map_value_apply_perm (keep : Keep) (faces : List Face) :
    ((keep.apply faces).map Face.value).Perm (faces.map Face.value) := by
  rw [map_value_apply]
  exact (sorted_perm faces).map Face.value

/-- The values come out in ascending order. -/
theorem pairwise_map_value_apply (keep : Keep) (faces : List Face) :
    ((keep.apply faces).map Face.value).Pairwise (· ≤ ·) := by
  rw [map_value_apply]
  exact (pairwise_sorted faces).map Face.value fun _ _ ordered => ordered

end Keep

end DiceWords
