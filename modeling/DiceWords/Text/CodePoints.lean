/-! # Sets of code points

A property of characters is given by the ranges of code points that have it. -/

namespace DiceWords.Text

/-- A set of code points, as the first and the last code point of each of its ranges. -/
structure CodePoints where
  ranges : List (Nat × Nat)

namespace CodePoints

/-- Whether a character belongs to the set. -/
def has (set : CodePoints) (c : Char) : Bool :=
  set.ranges.any fun range => range.1 ≤ c.toNat && c.toNat ≤ range.2

end CodePoints

end DiceWords.Text
