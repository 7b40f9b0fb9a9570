import DiceWords.Terminal.Editor

/-! # A session on a terminal

An editor is asked for lines until it has none to give. Each enters the history and is rolled,
unless it is blank throughout. When the session is over, the editor saves its history. -/

namespace DiceWords.Terminal

namespace Session

/-- How the program fails. -/
inductive Failure where
  /-- It ends with an error. -/
  | error (why : String)
  | crash
deriving DecidableEq, Repr

/-- What a session comes to. -/
structure Ended where
  /-- What is printed up to the last line. -/
  entries : List Printed
  /-- Why no more lines were entered, unless the program failed before. -/
  leaving : Option Leaving
  /-- The file of the history that is left. -/
  file : Option (List UInt8)
  failure : Option Failure
deriving DecidableEq, Repr

/-- What is printed at the beginning when the history's file could not be read. -/
def greeting (screen : Screen) (loaded : Bool) : List Printed :=
  if loaded then [] else [.error (screen.paint .boldYellow "repl: warn: no previous history")]

/-- What is printed when no line is entered. -/
def notice (screen : Screen) : Leaving → Printed
  | .interrupted => .error (screen.paint .boldYellow "repl: signal: CTRL-C")
  | .ended => .error (screen.paint .boldYellow "repl: signal: CTRL-D")
  | .failed why => .error (screen.paint .boldRed ("repl: error: `" ++ why ++ "`"))

/-- All that a session prints. -/
def Ended.printed (screen : Screen) (ended : Ended) : List Printed :=
  ended.entries ++ (ended.leaving.map (notice screen)).toList

variable {η σ : Type} (screen : Screen) (editor : Editor η) (source : Source σ)

/-- What a line prints. -/
def rollEntered (line : String) : StateM σ (List Printed) :=
  if Text.isAllBlank line then pure [] else rollLine screen source line

/-- Put a line into the history, and roll it unless that is refused. -/
def enter (state : η) (line : String) : StateM σ (Except Failure η × List Printed) :=
  match editor.add state line with
  | .error why => pure (.error (.error why), [])
  | .ok next => do
    let printed ← rollEntered screen source line
    return (.ok next, printed)

/-- Take lines from the input, from the one of a number on. -/
def takeLines (number : Nat) (state : η) (input : List UInt8) :
    StateM σ (Except Failure (Leaving × η) × List Printed) :=
  match asked : editor.ask state (.ofNumber screen number) input with
  | .crashed => pure (.error .crash, [])
  | .left leaving => pure (.ok (leaving, state), [])
  | .line text next rest =>
    have : rest.length < input.length := editor.length_rest_lt asked
    do
    let (entered, printed) ← enter screen editor source next text
    match entered with
    | .error failure => return (.error failure, printed)
    | .ok next =>
      let (ended, more) ← takeLines (number + 1) next rest
      return (ended, printed ++ more)
termination_by input.length

/-- What a session comes to when its lines have been taken. A program that has failed saves nothing.
-/
def conclude (file : Option (List UInt8)) (entries : List Printed) :
    Except Failure (Leaving × η) → Ended
  | .error failure => { entries, leaving := none, file, failure := some failure }
  | .ok (leaving, state) =>
    let (left, why) := editor.save state file
    { entries, leaving := some leaving, file := left, failure := why.map .error }

/-- A whole session with a file of the history and an input. -/
def run (file : Option (List UInt8)) (input : List UInt8) : StateM σ Ended := do
  let (state, loaded) := editor.load file
  let (taken, printed) ← takeLines screen editor source 1 state input
  return conclude editor file (greeting screen loaded ++ printed) taken

end Session

end DiceWords.Terminal
