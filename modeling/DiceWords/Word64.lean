/-! # Numbers of 64 bits

Counts are held in 64 bits without a sign, totals in 64 bits with one. A number read from a text
must fit; a number that is computed stops at the nearest bound instead of leaving the range. -/

namespace DiceWords

/-- The largest count, one below the 64th power of two. -/
def maxCount : Nat := 18446744073709551615

/-- The largest total, one below the 63rd power of two. -/
def maxTotal : Nat := 9223372036854775807

/-- The smallest total, the 63rd power of two below zero. -/
def minTotal : Int := -9223372036854775808

/-- The count nearest to a natural number. -/
def saturateCount (n : Nat) : Nat :=
  min n maxCount

/-- The total nearest to an integer. -/
def saturate (n : Int) : Int :=
  max minTotal (min n maxTotal)

/-- Inside the range a total is exact. -/
theorem saturate_eq_self {n : Int} (low : minTotal ≤ n) (high : n ≤ maxTotal) :
    saturate n = n := by
  unfold saturate
  omega

/-- A saturated total is in the range. -/
theorem saturate_mem_range (n : Int) : minTotal ≤ saturate n ∧ saturate n ≤ maxTotal := by
  unfold saturate minTotal maxTotal
  omega

end DiceWords
