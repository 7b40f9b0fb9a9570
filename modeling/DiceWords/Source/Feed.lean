import DiceWords.Source

/-! # Draws that can be repeated

A feed yields the same numbers each time it is started: those of a list, again and again, or those
of a linear congruential generator. As a source it folds each number into the range asked for, and
leaves a number that lies there already as it is. -/

namespace DiceWords

/-- A repeatable supply of numbers. -/
inductive Feed where
  /-- The numbers of a list that is not empty, again and again; `taken` of them have been used. -/
  | cycle (values : Array Int) (nonempty : 0 < values.size) (taken : Nat)
  /-- The upper bits of the states of a linear congruential generator. -/
  | congruential (state : UInt64)

namespace Feed

/-- The feed that cycles through a list, or runs the generator when the list is empty. -/
def ofValues (values : Array Int) (seed : UInt64) : Feed :=
  if nonempty : 0 < values.size then .cycle values nonempty 0 else .congruential seed

/-- The next number and the feed behind it. -/
def next : Feed → Int × Feed
  | cycle values nonempty taken =>
    have : taken % values.size < values.size := Nat.mod_lt taken nonempty
    (values[taken % values.size], .cycle values nonempty (taken + 1))
  | congruential state =>
    let state := state * 6364136223846793005 + 1442695040888963407
    ((state >>> 33).toNat, .congruential state)

/-- The number of a range that is the same as the given one up to the length of the range. -/
def fold (throw : Throw) (n : Int) : Int :=
  throw.low + (n - throw.low) % (throw.high - throw.low + 1)

/-- The feed as a source that keeps to the range asked for. -/
def source : Source Feed where
  draw := fun throw feed => (fold throw feed.next.1, feed.next.2)

/-- The feed as a source that hands its numbers out as they are. -/
def rawSource : Source Feed where
  draw := fun _ feed => feed.next

/-- A folded number is in range. -/
theorem fold_mem {throw : Throw} (ordered : throw.low ≤ throw.high) (n : Int) :
    throw.low ≤ fold throw n ∧ fold throw n ≤ throw.high := by
  unfold fold
  have low := Int.emod_nonneg (n - throw.low) (b := throw.high - throw.low + 1) (by omega)
  have high := Int.emod_lt_of_pos (n - throw.low) (b := throw.high - throw.low + 1) (by omega)
  omega

end Feed

end DiceWords
