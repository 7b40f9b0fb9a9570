import DiceWords.Query
import DiceWords.Terminal.Screen

/-! # Lines on a terminal

A line that has been entered is rolled: each word that is a dice expression prints its result, and
each that is refused prints why. A line that is being typed is highlighted: the same words stand out
in green and in red. -/

namespace DiceWords.Terminal

/-- A text printed on one of the two streams, its line end left off. -/
inductive Printed where
  | output (text : String)
  | error (text : String)
deriving DecidableEq, Repr

/-- What one word prints, if anything. -/
def answer (screen : Screen) : Except Error (Option Result) → Option Printed
  | .ok none => none
  | .ok (some result) => some (.output (screen.render result.text))
  | .error error => some (.error (screen.paint .boldRed error.text))

/-- What is printed for a line without dice. -/
def noDice (screen : Screen) : Printed :=
  .error (screen.paint .yellow "repl: info: no dice in line")

/-- Roll every dice expression of a line. -/
def rollLine {σ : Type} (screen : Screen) (source : Source σ) (line : String) :
    StateM σ (List Printed) := do
  let answers ← (Text.words line).mapM (rollWord source)
  let printed := answers.filterMap (answer screen)
  return if printed.isEmpty then [noDice screen] else printed

/-- A word in the color that tells how it would be answered. -/
def highlightWord (screen : Screen) (word : String) : String :=
  match (Query.ofWord word).parse {} with
  | .ok (some _) => screen.paint .boldGreen word
  | .ok none => word
  | .error _ => screen.paint .red word

/-- A line with its words highlighted and its blanks as they are. -/
def highlight (screen : Screen) (line : String) : String :=
  (Text.runs line.toList).foldl
    (fun text run =>
      text ++
        if Text.isWord run then highlightWord screen (String.ofList run) else String.ofList run)
    ""

/-- Whether a line is drawn anew after each key, since any word may have become dice. -/
def redraws (line : String) : Bool :=
  !line.isEmpty

/-- What is shown for a hint. -/
def shownHint (screen : Screen) (hint : String) : String :=
  screen.paint .dim hint

/-- What invites the next line. -/
structure Prompt where
  text : String
  colored : String
deriving DecidableEq, Repr

namespace Prompt

/-- The prompt for the line of a number. -/
def ofNumber (screen : Screen) (number : Nat) : Prompt :=
  let text := "roll: " ++ toString number ++ "> "
  { text, colored := screen.paint .boldGreen text }

/-- What is shown for a prompt: its colored form, unless another prompt takes its place. -/
def shown (prompt : Prompt) (isUsual : Bool) : String :=
  if isUsual then prompt.colored else prompt.text

end Prompt

end DiceWords.Terminal
