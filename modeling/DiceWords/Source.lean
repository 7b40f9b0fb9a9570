import DiceWords.Die

/-! # Where draws come from

Dice are thrown by drawing from a source, which holds a state of its own. A source can be made to
keep a record of its draws; the record changes no draw. -/

namespace DiceWords

/-- A range that a number is drawn from, both ends included. -/
structure Throw where
  low : Int
  high : Int
deriving DecidableEq, Repr

/-- A supply of numbers, drawn one after another. -/
structure Source (σ : Type) where
  draw : Throw → StateM σ Int

namespace Source

variable {σ : Type}

/-- The source that also records what it draws from, the earliest throw first. -/
def recording (source : Source σ) : Source (σ × Array Throw) where
  draw := fun throw (state, thrown) =>
    let (value, state) := (source.draw throw).run state
    (value, (state, thrown.push throw))

/-- So many draws from one range, in order. -/
def drawMany (source : Source σ) (count : Nat) (throw : Throw) : StateM σ (List Int) :=
  (List.replicate count throw).mapM source.draw

end Source

/-- The range that a die is drawn from. -/
def Die.throw (die : Die) : Throw where
  low := 1
  high := die.sides

end DiceWords
