import DiceWords.Terminal.Line

/-! # Line editors

The lines of a session come from a line editor, which also keeps the history of what has been
entered. How it reads a line and how it keeps its history is up to the editor. -/

namespace DiceWords.Terminal

/-- Why no line is entered. -/
inductive Leaving where
  /-- The one who types has broken off. -/
  | interrupted
  /-- The input has ended. -/
  | ended
  /-- The input cannot be read. -/
  | failed (why : String)
deriving DecidableEq, Repr

/-- What comes of asking an editor for a line. -/
inductive Asked (η : Type) where
  /-- A line has been entered; the rest of the input stands behind it. -/
  | line (text : String) (next : η) (rest : List UInt8)
  | left (leaving : Leaving)
  /-- The editor has broken down, and the program with it. -/
  | crashed
deriving DecidableEq, Repr

/-- A line editor whose history and whatever else it remembers is of type `η`. -/
structure Editor (η : Type) where
  /-- The editor with the history that a file holds, and whether the file could be read. -/
  load : Option (List UInt8) → η × Bool
  /-- Ask for a line of the input. -/
  ask : η → Prompt → List UInt8 → Asked η
  /-- Put a line into the history, which may be refused. -/
  add : η → String → Except String η
  /-- The file when the history has been saved to it, and why it has not been, if so. -/
  save : η → Option (List UInt8) → Option (List UInt8) × Option String
  /-- A line that is entered uses some of the input up. -/
  length_rest_lt {state next : η} {prompt : Prompt} {input rest : List UInt8} {text : String} :
    ask state prompt input = .line text next rest → rest.length < input.length

end DiceWords.Terminal
