import DiceWords.Face

/-! # Keeping the highest or the lowest dice -/

namespace DiceWords

/-- Which end of the sorted faces counts. -/
inductive Keep.Side where
  | high
  | low
deriving DecidableEq, Repr

/-- A keep clause: how many of the faces at one end count. -/
structure Keep where
  side : Keep.Side
  count : Nat
deriving DecidableEq, Repr

namespace Keep

/-- The two letters of a keep clause. -/
def Side.letters : Side → String
  | high => "kh"
  | low => "kl"

/-- The clause as it is written. -/
def text (keep : Keep) : String :=
  keep.side.letters ++ toString keep.count

/-- The faces from the lowest value to the highest; equal values stay in their order. -/
def sorted (faces : List Face) : List Face :=
  faces.mergeSort fun left right => (left.order right).isLE

/-- The faces, all of them kept or all of them not. -/
def setKept (kept : Bool) (faces : List Face) : List Face :=
  faces.map fun face => { face with kept }

/-- The faces in ascending order, with those outside the clause's window dropped. A count beyond
the number of faces keeps them all. -/
def apply (keep : Keep) (faces : List Face) : List Face :=
  let ascending := sorted faces
  match keep.side with
  | .high =>
    let dropped := ascending.length - keep.count
    setKept false (ascending.take dropped) ++ setKept true (ascending.drop dropped)
  | .low => setKept true (ascending.take keep.count) ++ setKept false (ascending.drop keep.count)

end Keep

end DiceWords
