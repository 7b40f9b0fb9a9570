import DiceWords.Term.Clauses

/-! # Dice terms

A term is what a written term stands for once its numbers and its die letter have been read and
checked. A number that its field cannot hold is refused where it stands, clause by clause from the
left, and so is a letter that names no die; the rules on how the numbers go together are checked
after that, on the dice count, the repeat count and the keep count in this order. -/

namespace DiceWords

/-- One dice term, read at the start of some text. -/
structure Term where
  /-- The repeat count in front of `#`. -/
  repeats : Option Nat
  spec : Spec
  /-- The term as it was written, without its repeat count. -/
  source : String
  /-- The length of all that was written, the repeat count included. -/
  length : Nat
deriving DecidableEq, Repr

namespace Term

/-- The number that digits stand for, refused beyond a bound. -/
def number (bound : Nat) (digits : List Char) : Except Error Nat :=
  match Text.valueUpTo? bound digits with
  | some n => .ok n
  | none => .error (.invalid (.outOfRange (String.ofList digits)))

/-- The keep clause that its letters and digits stand for. -/
def keepOf : Keep.Side × List Char → Except Error Keep
  | (side, digits) => (number maxCount digits).map fun count => { side, count }

/-- The modifier that its sign and digits stand for. -/
def modifierOf : Sign × List Char → Except Error Int
  | (sign, digits) => (number maxTotal digits).map sign.number

/-- The first rule that the numbers of a term break together. -/
def fault? (amount : Nat) (repeats : Option Nat) (keep : Option Keep) : Option Invalid :=
  if amount = 0 then some .noDice
  else if maxAmount < amount then some .tooManyDice
  else if repeats = some 0 then some .noRepeats
  else if repeats.any (maxRepeats < ·) then some .tooManyRepeats
  else keep.bind fun keep =>
    if keep.count = 0 then some .keepsNone
    else if amount < keep.count then some (.keepsTooMany keep.count amount)
    else none

/-- What a written term stands for. Under the option for it, a dice count of several digits makes
the term no dice term at all, whatever stands behind the count. -/
def ofClauses (options : Options) (clauses : Clauses) : Except Error (Option Term) := do
  let repeats ← clauses.repeats.mapM (number maxCount)
  if options.singleDigit && 1 < clauses.amount.length then
    return none
  let amount ← number maxCount clauses.amount
  let die ← Die.read (String.singleton clauses.die.letter)
  let keep ← clauses.keep.mapM keepOf
  let modifier ← clauses.modifier.mapM modifierOf
  match fault? amount repeats keep with
  | some why => throw (.invalid why)
  | none =>
    return some {
      repeats
      spec := { amount, die, keep, modifier }
      source := String.ofList clauses.sourceChars
      length := clauses.chars.length }

/-- The term at the start of a text, if there is one, and what follows it. -/
def take? (options : Options) (text : List Char) : Except Error (Option (Term × List Char)) :=
  match Clauses.match? text with
  | none => .ok none
  | some (clauses, rest) => (ofClauses options clauses).map fun found =>
      found.map fun term => (term, rest)

/-- The term at the start of a text, if there is one. -/
def atStart (options : Options) (text : String) : Except Error (Option Term) :=
  (take? options text.toList).map fun found => found.map Prod.fst

/-- Reading a term uses some of the text up. -/
theorem length_rest_lt_of_take? {options : Options} {text rest : List Char} {term : Term}
    (taken : take? options text = .ok (some (term, rest))) : rest.length < text.length := by
  unfold take? at taken
  split at taken
  · simp at taken
  · next clauses after found =>
    cases read : ofClauses options clauses with
    | error e => simp [read, Except.map] at taken
    | ok result =>
      cases result with
      | none => simp [read, Except.map] at taken
      | some other =>
        simp only [read, Except.map, Option.map_some, Except.ok.injEq, Option.some.injEq,
          Prod.mk.injEq] at taken
        rw [← taken.2]
        exact Clauses.length_rest_lt_of_match? found

end Term

end DiceWords
