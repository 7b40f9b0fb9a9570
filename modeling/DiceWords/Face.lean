import DiceWords.Die

/-! # Faces of thrown dice -/

namespace DiceWords

/-- The two ends of a die. -/
inductive Extreme where
  | highest
  | lowest
deriving DecidableEq, Repr

/-- What one thrown die shows. -/
structure Face where
  value : Int
  /-- The end of its own die that the value is, if it is one. -/
  extreme : Option Extreme
  /-- A face that is not kept is shown but does not count. -/
  kept : Bool
deriving DecidableEq, Repr

namespace Face

/-- A die that shows a value. -/
def ofDie (die : Die) (value : Int) : Face where
  value := value
  extreme :=
    if value = die.highest then some .highest
    else if value = die.lowest then some .lowest
    else none
  kept := true

/-- Faces are ordered by their value alone. -/
def order (left right : Face) : Ordering :=
  compare left.value right.value

/-- A face is not above another when its value is not. -/
theorem isLE_order {left right : Face} :
    (left.order right).isLE = true ↔ left.value ≤ right.value :=
  Int.isLE_compare

/-- The value, struck through when it does not count. -/
def text (face : Face) : String :=
  if face.kept then toString face.value else "~~" ++ toString face.value ++ "~~"

end Face

/-- The ends of dice that came up among some faces. -/
structure Extremes where
  highest : Bool := false
  lowest : Bool := false
deriving DecidableEq, Repr

namespace Extremes

/-- The ends in order, the highest first. -/
def toList (ends : Extremes) : List Extreme :=
  (if ends.highest then [.highest] else []) ++ (if ends.lowest then [.lowest] else [])

/-- The ends among two sets of faces together. -/
def union (left right : Extremes) : Extremes where
  highest := left.highest || right.highest
  lowest := left.lowest || right.lowest

/-- The ends that came up among the faces that count. -/
def ofFaces (faces : List Face) : Extremes where
  highest := faces.any fun face => face.kept && face.extreme == some .highest
  lowest := faces.any fun face => face.kept && face.extreme == some .lowest

/-- No end is listed twice. -/
theorem nodup_toList (ends : Extremes) : ends.toList.Nodup := by
  obtain ⟨highest, lowest⟩ := ends
  cases highest <;> cases lowest <;> decide

theorem highest_mem_toList (ends : Extremes) : .highest ∈ ends.toList ↔ ends.highest := by
  obtain ⟨highest, lowest⟩ := ends
  cases highest <;> cases lowest <;> decide

theorem lowest_mem_toList (ends : Extremes) : .lowest ∈ ends.toList ↔ ends.lowest := by
  obtain ⟨highest, lowest⟩ := ends
  cases highest <;> cases lowest <;> decide

/-- An end is among two sets together when it is in one of them. -/
theorem mem_toList_union_iff {ends more : Extremes} {extreme : Extreme} :
    extreme ∈ (ends.union more).toList ↔ extreme ∈ ends.toList ∨ extreme ∈ more.toList := by
  cases extreme with
  | highest =>
      rw [highest_mem_toList, highest_mem_toList, highest_mem_toList, union, Bool.or_eq_true]
  | lowest => rw [lowest_mem_toList, lowest_mem_toList, lowest_mem_toList, union, Bool.or_eq_true]

end Extremes

end DiceWords
