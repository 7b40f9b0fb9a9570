import DiceWords.Result
import DiceWords.Text.Blank
import DiceWords.Text.Lowercase

/-! # Asking for a roll

A word is asked for without the blanks around it and in lowercase. Dice are thrown only when the
whole word is an expression. -/

namespace DiceWords

/-- A word as it is looked at: trimmed and in lowercase. -/
structure Query where
  text : String
deriving DecidableEq, Repr

namespace Query

/-- The form in which a word is looked at. -/
def ofWord (word : String) : Query :=
  ⟨String.ofList (Text.lowercase (Text.trim word.toList))⟩

/-- The expression that the word is, if it is one. -/
def parse (options : Options) (query : Query) : Except Error (Option Expression) :=
  Expression.parse options query.text

variable {σ : Type}

/-- Throw an expression in answer to the query. -/
def roll (source : Source σ) (query : Query) (expression : Expression) : StateM σ Result :=
  expression.roll source query.text

/-- Throw the expression that the word is, if it is one. -/
def solve (options : Options) (source : Source σ) (query : Query) :
    StateM σ (Except Error (Option Result)) :=
  match query.parse options with
  | .error e => pure (.error e)
  | .ok none => pure (.ok none)
  | .ok (some expression) => do
    let result ← query.roll source expression
    return .ok (some result)

end Query

/-- Throw the expression that a word is, if it is one, under the usual options. -/
def rollWord {σ : Type} (source : Source σ) (word : String) :
    StateM σ (Except Error (Option Result)) :=
  (Query.ofWord word).solve {} source

end DiceWords
