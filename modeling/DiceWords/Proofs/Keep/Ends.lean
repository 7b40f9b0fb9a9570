import DiceWords.Proofs.Keep.Draws

/-! # The ends of dice

A face knows whether it shows an end of its own die, and a keep clause does not change that
(`Spec.extreme_eq_some_iff`). Which ends come up among the faces that count can therefore be told
from values (`Extremes.mem_toList_ofFaces_facesOf`). A clause drops from the far side of its own
end: as long as it keeps any face at all, a face at that end is among those that it keeps
(`Keep.Side.valueAt_mem_window_iff`). -/

namespace DiceWords

/-- The value that a die shows at one of its ends. -/
def Die.valueAt (die : Die) : Extreme → Int
  | .highest => die.highest
  | .lowest => die.lowest

/-! ## Faces that show an end -/

/-- A face shows an end of its die exactly when it has the value of that end. -/
theorem Face.extreme_ofDie_eq_some_iff (die : Die) (value : Int) (extreme : Extreme) :
    (Face.ofDie die value).extreme = some extreme ↔ value = die.valueAt extreme := by
  have apart : die.highest ≠ die.lowest := by cases die <;> decide
  simp only [Face.ofDie]
  cases extreme with
  | highest =>
      rw [Die.valueAt]
      split <;> grind
  | lowest =>
      rw [Die.valueAt]
      split <;> grind

/-- **A face of a thrown term knows the ends of its die**, whatever the clause of the term. -/
theorem Spec.extreme_eq_some_iff {spec : Spec} {draws : List Int} {face : Face}
    (member : face ∈ spec.facesOf draws) (extreme : Extreme) :
    face.extreme = some extreme ↔ face.value = spec.die.valueAt extreme := by
  have shown : face.look ∈ (spec.thrown draws).map Face.look := by
    unfold facesOf at member
    split at member
    · next keep _ =>
      have looks := (keep.stableSort_apply (spec.thrown draws)).perm
      exact looks.mem_iff.mp (List.mem_map_of_mem member)
    · exact List.mem_map_of_mem member
  rw [thrown, List.map_map] at shown
  obtain ⟨draw, -, look⟩ := List.mem_map.mp shown
  obtain ⟨value, known⟩ := Prod.mk.inj look
  rw [← value, ← known]
  exact Face.extreme_ofDie_eq_some_iff _ _ _

namespace Extremes

/-- An end has come up when a face that counts shows it. -/
theorem mem_toList_ofFaces {faces : List Face} {extreme : Extreme} :
    extreme ∈ (ofFaces faces).toList ↔
      ∃ face ∈ faces, face.kept = true ∧ face.extreme = some extreme := by
  cases extreme with
  | highest => simp [highest_mem_toList, ofFaces]
  | lowest => simp [lowest_mem_toList, ofFaces]

/-- An end has come up among several rolls when it has in one of them. -/
theorem mem_toList_ofFaces_flatMap {α : Type} {faces : α → List Face} {list : List α}
    {extreme : Extreme} :
    extreme ∈ (ofFaces (list.flatMap faces)).toList ↔
      ∃ item ∈ list, extreme ∈ (ofFaces (faces item)).toList := by
  simp only [mem_toList_ofFaces, List.mem_flatMap]
  grind

/-- An end comes up when some face that counts has its value. -/
theorem mem_toList_ofFaces_facesOf (spec : Spec) (draws : List Int) (extreme : Extreme) :
    extreme ∈ (ofFaces (spec.facesOf draws)).toList ↔
      ∃ face ∈ spec.facesOf draws, face.kept = true ∧ face.value = spec.die.valueAt extreme := by
  rw [mem_toList_ofFaces]
  constructor
  · rintro ⟨face, member, counts, known⟩
    exact ⟨face, member, counts, (Spec.extreme_eq_some_iff member extreme).mp known⟩
  · rintro ⟨face, member, counts, value⟩
    exact ⟨face, member, counts, (Spec.extreme_eq_some_iff member extreme).mpr value⟩

end Extremes

/-! ## Ends that are not dropped -/

namespace Keep

/-- The highest value is still there when lower ones are left out from the left. -/
theorem mem_drop_of_pairwise_le {values : List Int} (ascending : values.Pairwise (· ≤ ·)) {top : Int}
    (bound : ∀ value ∈ values, value ≤ top) {skipped : Nat} (short : skipped < values.length)
    (member : top ∈ values) : top ∈ values.drop skipped := by
  rw [← List.take_append_drop skipped values] at ascending member
  rcases List.mem_append.mp member with skippedToo | left
  · -- the first value that is left is not below the top, so it is the top
    have inside : values[skipped] ∈ values.drop skipped := by
      rw [List.drop_eq_getElem_cons short]
      exact List.mem_cons_self
    have above := (List.pairwise_append.mp ascending).2.2 top skippedToo _ inside
    have below := bound _ (List.getElem_mem short)
    rwa [Int.le_antisymm above below]
  · exact left

/-- The lowest value is still there when higher ones are left out from the right. -/
theorem mem_take_of_pairwise_le {values : List Int} (ascending : values.Pairwise (· ≤ ·))
    {bottom : Int} (bound : ∀ value ∈ values, bottom ≤ value) {taken : Nat} (positive : 0 < taken)
    (member : bottom ∈ values) : bottom ∈ values.take taken := by
  rw [← List.take_append_drop taken values] at ascending member
  rcases List.mem_append.mp member with inside | left
  · exact inside
  · have nonempty : 0 < values.length := List.length_pos_of_mem (List.mem_of_mem_drop left)
    have first : values[0] ∈ values.take taken :=
      List.mem_take_iff_getElem.mpr ⟨0, Nat.lt_min.mpr ⟨positive, nonempty⟩, rfl⟩
    have below := (List.pairwise_append.mp ascending).2.2 _ first _ left
    have above := bound _ (List.getElem_mem nonempty)
    rwa [Int.le_antisymm above below]

/-- The end of a die that a clause keeps. -/
def Side.extreme : Side → Extreme
  | high => .highest
  | low => .lowest

variable {keep : Keep} {faces : List Face} {die : Die}

/-- **A clause that keeps any face keeps one at its end**, if there is one. -/
theorem valueAt_mem_window_iff (positive : 0 < keep.count)
    (inRange : ∀ value ∈ faces.map Face.value, die.lowest ≤ value ∧ value ≤ die.highest) :
    die.valueAt keep.side.extreme ∈ (keep.window faces).map Face.value ↔
      die.valueAt keep.side.extreme ∈ faces.map Face.value := by
  have same := (sorted_perm faces).map Face.value
  have ascending : ((sorted faces).map Face.value).Pairwise (· ≤ ·) :=
    (pairwise_sorted faces).map Face.value fun _ _ ordered => ordered
  rw [← same.mem_iff]
  constructor
  · exact ((keep.window_sublist faces).map Face.value).mem
  · intro member
    have inSorted : ∀ value ∈ (sorted faces).map Face.value,
        die.lowest ≤ value ∧ value ≤ die.highest := fun value listed =>
      inRange value (same.mem_iff.mp listed)
    obtain ⟨side, count⟩ := keep
    cases side with
    | high =>
        simp only [window, List.map_drop]
        have short : faces.length - count < ((sorted faces).map Face.value).length := by
          have nonempty := List.length_pos_of_mem member
          rw [List.length_map, length_sorted] at nonempty ⊢
          exact Nat.sub_lt nonempty positive
        exact mem_drop_of_pairwise_le ascending (fun value listed => (inSorted value listed).2)
          short member
    | low =>
        simp only [window, List.map_take]
        exact mem_take_of_pairwise_le ascending (fun value listed => (inSorted value listed).1)
          positive member

/-- The values that count under a clause are those in its window. -/
theorem exists_kept_value_iff (keep : Keep) (faces : List Face) (value : Int) :
    (∃ face ∈ keep.apply faces, face.kept = true ∧ face.value = value) ↔
      value ∈ (keep.window faces).map Face.value := by
  rw [← map_value_filter_kept_apply]
  simp only [List.mem_map, List.mem_filter, and_assoc]

/-- A term with a clause shows its end among the faces that count when it shows it at all. -/
theorem extreme_mem_ofFaces_iff {spec : Spec} {draws : List Int} (clause : spec.keep = some keep)
    (positive : 0 < keep.count)
    (inRange : ∀ value ∈ (spec.facesOf draws).map Face.value,
      spec.die.lowest ≤ value ∧ value ≤ spec.die.highest) :
    keep.side.extreme ∈ (Extremes.ofFaces (spec.facesOf draws)).toList ↔
      ∃ face ∈ spec.facesOf draws, face.value = spec.die.valueAt keep.side.extreme := by
  have faces : spec.facesOf draws = keep.apply (spec.thrown draws) := by
    rw [Spec.facesOf, clause]
    rfl
  rw [Extremes.mem_toList_ofFaces_facesOf]
  rw [faces] at inRange ⊢
  have same := keep.map_value_apply_perm (spec.thrown draws)
  rw [exists_kept_value_iff, valueAt_mem_window_iff positive, ← same.mem_iff, List.mem_map]
  exact fun value listed => inRange value (same.mem_iff.mpr listed)

end Keep

end DiceWords
