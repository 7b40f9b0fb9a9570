/-! # Limits of one dice term -/

namespace DiceWords

/-- The most dice a term may throw. -/
def maxAmount : Nat := 5000

/-- The most times a term may be repeated. -/
def maxRepeats : Nat := 100

/-- The most terms in a chain, unless the options say otherwise. -/
def defaultMaxTerms : Nat := 64

/-- What a dice expression may look like. -/
structure Options where
  /-- Accept a dice count of one digit only. -/
  singleDigit : Bool := false
  /-- The most terms in a chain; a single term is always accepted. -/
  maxTerms : Nat := defaultMaxTerms
deriving DecidableEq, Repr

end DiceWords
