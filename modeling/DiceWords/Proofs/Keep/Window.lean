import DiceWords.Proofs.Keep

/-! # The window of a keep clause

Two things fix what a keep clause makes of some faces. The faces come in their stable ascending
order: the values ascend, and faces of one value stay in the order in which they were thrown
(`Keep.stableSort_apply`). And the marks are those of a window at one end, whatever the marks were
before (`Keep.map_kept_apply`). -/

namespace DiceWords

namespace Face

/-- What a face shows, its mark left aside. -/
def look (face : Face) : Int × Option Extreme :=
  (face.value, face.extreme)

/-- Faces are told apart by what they show and by their marks. -/
theorem eq_of_map_look_of_map_kept {faces others : List Face}
    (looks : faces.map look = others.map look) (marks : faces.map kept = others.map kept) :
    faces = others := by
  induction faces generalizing others with
  | nil => exact (List.map_eq_nil_iff.mp looks.symm).symm
  | cons face faces ih =>
      cases others with
      | nil => contradiction
      | cons other others =>
          obtain ⟨same, looks⟩ := List.cons.inj looks
          obtain ⟨mark, marks⟩ := List.cons.inj marks
          obtain ⟨value, extreme⟩ := Prod.mk.inj same
          rw [ih looks marks]
          cases face
          cases other
          cases value
          cases extreme
          cases mark
          rfl

/-- Faces in the stable ascending order of others: the same is shown, the values ascend, and what
faces of one value show comes in the order in which it came before. Marks do not matter. -/
structure StableSort (faces result : List Face) : Prop where
  perm : (result.map look).Perm (faces.map look)
  ascending : result.Pairwise fun left right => left.value ≤ right.value
  stable : ∀ value : Int, (result.filter fun face => face.value = value).map look =
    (faces.filter fun face => face.value = value).map look

/-- Only what the faces show matters. -/
theorem StableSort.of_map_look {faces result other : List Face} (sort : StableSort faces result)
    (looks : other.map look = result.map look) : StableSort faces other where
  perm := by
    rw [looks]
    exact sort.perm
  ascending := by
    have shown (faces : List Face) : (faces.Pairwise fun left right => left.value ≤ right.value) ↔
        (faces.map look).Pairwise fun left right => left.1 ≤ right.1 :=
      (List.pairwise_map (R := fun left right => left.1 ≤ right.1) (f := look)).symm
    rw [shown, looks, ← shown]
    exact sort.ascending
  stable := by
    intro value
    have shown (faces : List Face) : (faces.filter fun face => face.value = value).map look =
        (faces.map look).filter fun shown => shown.1 = value := by
      rw [List.filter_map]
      rfl
    rw [← sort.stable value, shown, shown, looks]

end Face

namespace Keep

open Face (look StableSort)

/-! ## The sort -/

/-- What ascends already is left alone. -/
theorem sorted_of_ascending {faces : List Face}
    (ascending : faces.Pairwise fun left right => left.value ≤ right.value) :
    sorted faces = faces :=
  List.mergeSort_of_pairwise (ascending.imp Face.isLE_order.mpr)

/-- Sorting keeps the number of faces. -/
theorem length_sorted (faces : List Face) : (sorted faces).length = faces.length :=
  List.length_mergeSort faces

/-- Faces of one value come out of the sort in the order in which they went in. -/
theorem filter_value_sorted (faces : List Face) (value : Int) :
    (sorted faces).filter (fun face => face.value = value) =
      faces.filter fun face => face.value = value := by
  have alike : (faces.filter fun face => face.value = value).Pairwise
      fun left right => left.value ≤ right.value := by
    apply List.pairwise_of_forall_mem_list
    intro left member right member'
    have first := of_decide_eq_true (List.mem_filter.mp member).2
    have second := of_decide_eq_true (List.mem_filter.mp member').2
    exact Int.le_of_eq (first.trans second.symm)
  have kept : (faces.filter fun face => face.value = value).Sublist (sorted faces) :=
    List.sublist_mergeSort Face.isLE_order_trans Face.isLE_order_total
      (alike.imp Face.isLE_order.mpr) List.filter_sublist
  have inside := kept.filter fun face => decide (face.value = value)
  rw [List.filter_filter] at inside
  simp only [Bool.and_self] at inside
  apply (inside.eq_of_length _).symm
  exact ((sorted_perm faces).filter _).length_eq.symm

/-- **The sort is the stable ascending one.** -/
theorem stableSort_sorted (faces : List Face) : StableSort faces (sorted faces) where
  perm := (sorted_perm faces).map look
  ascending := pairwise_sorted faces
  stable := by
    intro value
    rw [filter_value_sorted]

/-! ## The marks -/

/-- Marking faces changes nothing that they show. -/
theorem map_look_setKept (kept : Bool) (faces : List Face) :
    (setKept kept faces).map look = faces.map look := by
  rw [setKept, List.map_map]
  rfl

/-- All the marks are the same. -/
theorem map_kept_setKept (kept : Bool) (faces : List Face) :
    (setKept kept faces).map Face.kept = List.replicate faces.length kept := by
  rw [setKept, List.map_map, ← List.map_const]
  rfl

/-- Faces that are all kept all count. -/
theorem filter_setKept_true (faces : List Face) :
    (setKept true faces).filter Face.kept = setKept true faces := by
  apply List.filter_eq_self.mpr
  intro face member
  obtain ⟨before, -, rfl⟩ := List.mem_map.mp member
  rfl

/-- Faces that are all dropped do not count. -/
theorem filter_setKept_false (faces : List Face) :
    (setKept false faces).filter Face.kept = [] := by
  apply List.filter_eq_nil_iff.mpr
  intro face member
  obtain ⟨before, -, rfl⟩ := List.mem_map.mp member
  exact Bool.false_ne_true

/-- The marks of ascending faces when so many at one end are kept and the others dropped. -/
def Side.marks : Side → (kept dropped : Nat) → List Bool
  | high, kept, dropped => List.replicate dropped false ++ List.replicate kept true
  | low, kept, dropped => List.replicate kept true ++ List.replicate dropped false

/-- The marks keep as many faces as they say. -/
theorem Side.count_marks (side : Side) (kept dropped : Nat) :
    (side.marks kept dropped).count true = kept := by
  cases side with
  | high => simp [marks, List.count_replicate]
  | low => simp [marks, List.count_replicate]

/-- The faces that a clause keeps, before they are marked. -/
def window (keep : Keep) (faces : List Face) : List Face :=
  match keep.side with
  | .high => (sorted faces).drop (faces.length - keep.count)
  | .low => (sorted faces).take keep.count

/-- A window is as large as the clause says, or holds all faces. -/
theorem length_window (keep : Keep) (faces : List Face) :
    (keep.window faces).length = min keep.count faces.length := by
  obtain ⟨side, count⟩ := keep
  cases side with
  | high =>
      simp only [window, List.length_drop, length_sorted]
      omega
  | low => simp only [window, List.length_take, length_sorted]

/-- A window is part of the sorted faces. -/
theorem window_sublist (keep : Keep) (faces : List Face) :
    (keep.window faces).Sublist (sorted faces) := by
  obtain ⟨side, count⟩ := keep
  cases side with
  | high => exact List.drop_sublist _ _
  | low => exact List.take_sublist _ _

/-! ## The clause -/

/-- A keep clause shows what the sort shows. -/
theorem map_look_apply (keep : Keep) (faces : List Face) :
    (keep.apply faces).map look = (sorted faces).map look := by
  obtain ⟨side, count⟩ := keep
  cases side with
  | high =>
      simp only [apply, List.map_append, map_look_setKept]
      rw [← List.map_append, List.take_append_drop]
  | low =>
      simp only [apply, List.map_append, map_look_setKept]
      rw [← List.map_append, List.take_append_drop]

/-- **A keep clause sorts stably.** -/
theorem stableSort_apply (keep : Keep) (faces : List Face) :
    StableSort faces (keep.apply faces) :=
  (stableSort_sorted faces).of_map_look (keep.map_look_apply faces)

/-- A keep clause keeps the number of faces, those that do not count among them. -/
theorem length_apply (keep : Keep) (faces : List Face) :
    (keep.apply faces).length = faces.length := by
  rw [← List.length_map look, map_look_apply, List.length_map, length_sorted]

/-- **A keep clause marks its window.** -/
theorem map_kept_apply (keep : Keep) (faces : List Face) :
    (keep.apply faces).map Face.kept =
      keep.side.marks (min keep.count faces.length) (faces.length - keep.count) := by
  obtain ⟨side, count⟩ := keep
  have top : faces.length - (faces.length - count) = min count faces.length := by omega
  have bottom : min (faces.length - count) faces.length = faces.length - count := by omega
  cases side with
  | high =>
      simp only [apply, Side.marks, List.map_append, map_kept_setKept, List.length_take,
        List.length_drop, length_sorted, top, bottom]
  | low =>
      simp only [apply, Side.marks, List.map_append, map_kept_setKept, List.length_take,
        List.length_drop, length_sorted]

/-- What counts are the faces in the window. -/
theorem filter_kept_apply (keep : Keep) (faces : List Face) :
    (keep.apply faces).filter Face.kept = setKept true (keep.window faces) := by
  obtain ⟨side, count⟩ := keep
  cases side with
  | high =>
      simp only [apply, window, List.filter_append, filter_setKept_true, filter_setKept_false,
        length_sorted, List.nil_append]
  | low =>
      simp only [apply, window, List.filter_append, filter_setKept_true, filter_setKept_false,
        List.append_nil]

/-- The values that count are those in the window. -/
theorem map_value_filter_kept_apply (keep : Keep) (faces : List Face) :
    ((keep.apply faces).filter Face.kept).map Face.value =
      (keep.window faces).map Face.value := by
  rw [filter_kept_apply, map_value_setKept]

/-- **A clause that is applied again changes nothing.** -/
theorem apply_apply (keep : Keep) (faces : List Face) :
    keep.apply (keep.apply faces) = keep.apply faces := by
  apply Face.eq_of_map_look_of_map_kept
  · rw [map_look_apply, sorted_of_ascending (keep.stableSort_apply faces).ascending]
  · rw [map_kept_apply, map_kept_apply, length_apply]

end Keep

end DiceWords
