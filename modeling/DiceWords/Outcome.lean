import DiceWords.Sign
import DiceWords.Source
import DiceWords.Term

/-! # Outcomes of thrown terms

An outcome holds what one thrown term shows: every face, those that do not count among them, the
sum of those that do, the modifier and the sign it is combined with. Its total and its texts are
computed from these. -/

namespace DiceWords

/-- The sum of the faces that count. -/
def Face.sumKept (faces : List Face) : Int :=
  ((faces.filter Face.kept).map Face.value).foldr (· + ·) 0

/-- What one thrown term shows. -/
structure Outcome where
  faces : List Face
  /-- The sum of the faces that count, without the modifier. -/
  sum : Int := Face.sumKept faces
  modifier : Option Int
  /-- The term as it was written. -/
  source : String
  sign : Sign
  sum_eq : sum = Face.sumKept faces := by rfl
deriving DecidableEq, Repr

namespace Outcome

/-- The values of all faces. -/
def rolls (outcome : Outcome) : List Int :=
  outcome.faces.map Face.value

/-- The values of the faces that count. -/
def kept (outcome : Outcome) : List Int :=
  (outcome.faces.filter Face.kept).map Face.value

/-- The sum of the faces that count, plus the modifier. -/
def total (outcome : Outcome) : Int :=
  saturate (outcome.sum + outcome.modifier.getD 0)

/-- The total with the sign applied. -/
def signedTotal (outcome : Outcome) : Int :=
  outcome.sign.apply outcome.total

/-- A modifier behind the faces. -/
def modifierText (modifier : Int) : String :=
  if modifier < 0 then " - " ++ toString modifier.natAbs else " + " ++ toString modifier

/-- The faces and the modifier, e.g. `[3, ~~-2~~] + 1`. -/
def history (outcome : Outcome) : String :=
  "[" ++ ", ".intercalate (outcome.faces.map Face.text) ++ "]" ++
    (outcome.modifier.map modifierText).getD ""

/-- The outcome on its own, as it is shown. -/
def text (outcome : Outcome) : String :=
  "`" ++ outcome.source ++ "` `" ++ outcome.history ++ "` = **" ++ toString outcome.total ++ "**"

end Outcome

/-- Throw the dice that a specification asks for, and drop those that it does not keep. -/
def Spec.roll {σ : Type} (source : Source σ) (spec : Spec) : StateM σ (List Face) := do
  let draws ← source.drawMany spec.amount spec.die.throw
  let faces := draws.map fun value => Face.ofDie spec.die (value - spec.die.offset)
  return match spec.keep with
    | some keep => keep.apply faces
    | none => faces

/-- Throw a term. -/
def Term.roll {σ : Type} (source : Source σ) (sign : Sign) (term : Term) : StateM σ Outcome := do
  let faces ← term.spec.roll source
  return { faces, modifier := term.spec.modifier, source := term.source, sign }

end DiceWords
