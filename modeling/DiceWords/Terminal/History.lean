import DiceWords.Text.Blank
import DiceWords.Text.Bytes

/-! # The history of entered lines

A history keeps the newest lines and no line twice in a row. From it a line that is being typed can
be completed. -/

namespace DiceWords.Terminal

/-- Entered lines, the oldest first. -/
structure History where
  entries : List String := []
deriving DecidableEq, Repr

namespace History

/-- The most entries that are kept. -/
def capacity : Nat := 100

/-- Whether a line is passed over: it is empty or repeats the newest entry. -/
def skips (history : History) (line : String) : Bool :=
  line.isEmpty || history.entries.getLast? == some line

/-- The history with one more line; the oldest entry makes room. -/
def push (history : History) (line : String) : History :=
  if history.skips line then history
  else
    let entries := history.entries ++ [line]
    { entries := entries.drop (entries.length - capacity) }

/-- The history of some lines. -/
def ofLines (lines : List String) : History :=
  lines.foldl push {}

/-- Whether a line is kept out of the history by the one who enters it: it begins with a blank. -/
def isPrivate (line : String) : Bool :=
  line.toList.head?.any Text.isBlank

/-- The newest entry that begins with a text. -/
def newestWith? (history : History) (text : String) : Option String :=
  history.entries.reverse.find? fun entry => text.toList.isPrefixOf entry.toList

/-- What stands behind the cursor in the newest entry that begins with the line. The cursor must
have passed the line, and the entry must not be the line itself. -/
def hint? (history : History) (line : String) (cursor : Nat) : Option String :=
  if line.isEmpty || cursor < line.utf8ByteSize then none
  else
    match history.newestWith? line with
    | none => none
    | some entry =>
      if entry = line then none
      else (Text.cut? cursor entry.toList).map fun parts => String.ofList parts.2

end History

end DiceWords.Terminal
