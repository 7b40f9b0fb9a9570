import DiceWords.Keep

/-! # What a dice term asks for -/

namespace DiceWords

/-- What to throw, which faces count, and what is added to them. -/
structure Spec where
  amount : Nat
  die : Die
  keep : Option Keep
  modifier : Option Int
deriving DecidableEq, Repr

namespace Spec

/-- A modifier as it is written, always with a sign. -/
def modifierText (modifier : Int) : String :=
  if modifier < 0 then toString modifier else "+" ++ toString modifier

/-- The term as it is written, e.g. `4fkh2-3`. -/
def text (spec : Spec) : String :=
  toString spec.amount ++ spec.die.letter.toString ++ (spec.keep.map Keep.text).getD "" ++
    (spec.modifier.map modifierText).getD ""

end Spec

end DiceWords
