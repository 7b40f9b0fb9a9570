import DiceWords.Expression
import DiceWords.Outcome

/-! # Results of thrown expressions

A batch shows its outcomes line by line; a chain combines them into one total. The text of a result
is markdown: what was asked for and what was thrown stand in code quotes, totals in bold. -/

namespace DiceWords

namespace Chain

/-- The combined total: signed totals are added from the left, each sum kept in range. -/
def total (outcomes : List Outcome) : Int :=
  outcomes.foldl (fun sum outcome => saturate (sum + outcome.signedTotal)) 0

/-- One outcome among several; with a modifier it is put in parentheses. -/
def part (alone : Bool) (outcome : Outcome) : String :=
  if !alone && outcome.modifier.isSome then "(" ++ outcome.history ++ ")" else outcome.history

/-- The sign in front of the first outcome, left out when it is a plus. -/
def leadingSign : Sign → String
  | .plus => ""
  | .minus => "-"

/-- All outcomes with their signs, e.g. `[1, 4] - ([-3] - 1)`. -/
def history : List Outcome → String
  | [] => ""
  | first :: rest =>
    rest.foldl
      (fun text outcome => text ++ " " ++ outcome.sign.text ++ " " ++ part rest.isEmpty outcome)
      (leadingSign first.sign ++ part rest.isEmpty first)

/-- The combined outcomes, as they are shown. -/
def text (outcomes : List Outcome) : String :=
  "`" ++ history outcomes ++ "` = **" ++ toString (total outcomes) ++ "**"

end Chain

/-- The two ways in which outcomes make up a result. -/
inductive Result.Kind where
  | batch
  | chain
deriving DecidableEq, Repr

/-- What a thrown expression shows. -/
structure Result where
  kind : Result.Kind
  /-- The word that was asked for. -/
  query : String
  outcomes : List Outcome
deriving DecidableEq, Repr

namespace Result

/-- The outcomes of a batch. -/
def batch? (result : Result) : Option (List Outcome) :=
  match result.kind with
  | .batch => some result.outcomes
  | .chain => none

/-- The outcomes of a chain. -/
def chain? (result : Result) : Option (List Outcome) :=
  match result.kind with
  | .batch => none
  | .chain => some result.outcomes

/-- The result as it is shown. -/
def text (result : Result) : String :=
  match result.kind with
  | .batch =>
    result.outcomes.foldl (fun text outcome => text ++ "\n" ++ outcome.text)
      ("`" ++ result.query ++ "`")
  | .chain => "`" ++ result.query ++ "` " ++ Chain.text result.outcomes

/-- The ends of dice that came up among the faces that count. -/
def extremes (result : Result) : Extremes :=
  Extremes.ofFaces (result.outcomes.flatMap Outcome.faces)

end Result

/-- Throw an expression, its dice in the order in which they are written. -/
def Expression.roll {σ : Type} (source : Source σ) (query : String) :
    Expression → StateM σ Result
  | batch times term => do
    let outcomes ← (List.replicate times term).mapM (Term.roll source .plus)
    return { kind := .batch, query, outcomes }
  | chain links => do
    let outcomes ← links.mapM fun link => link.term.roll source link.sign
    return { kind := .chain, query, outcomes }

end DiceWords
