import DiceWords.Text.Bytes
import DiceWords.Text.Cluster

/-! # Erasing with the backspace

Where a line holds a backspace, the grapheme cluster in front of it is erased, and the backspace
itself is not part of the line. A backspace at the start of a line erases nothing. -/

namespace DiceWords.Terminal

/-- The character that erases. -/
def backspace : Char := '\x08'

/-- A line while it is put together. -/
structure Typed where
  /-- The characters so far, the newest first. -/
  text : List Char := []
  /-- How many bytes each cluster takes that can still be erased, the newest first. -/
  widths : List Nat := []
deriving DecidableEq, Repr

namespace Typed

/-- The width of a cluster is kept in one byte. -/
def maxWidth : Nat := 255

/-- How many bytes of a cluster a backspace erases. -/
def width (cluster : List Char) : Nat :=
  Text.byteSize cluster % (maxWidth + 1)

/-- The line with its newest cluster erased. A cluster too wide for its width is erased in part, and
only where a character begins. -/
def erase? (typed : Typed) : Option Typed :=
  match typed.widths with
  | [] => some typed
  | width :: widths => (Text.cut? width typed.text).map fun parts => { text := parts.2, widths }

/-- The line with one more cluster. -/
def type? (typed : Typed) (cluster : List Char) : Option Typed :=
  if cluster = [backspace] then typed.erase?
  else some { text := cluster.reverse ++ typed.text, widths := width cluster :: typed.widths }

end Typed

/-- A line with its backspaces carried out, if they can be. -/
def withoutBackspaces? (line : String) : Option String :=
  if line.toList.contains backspace then
    ((Text.clusters line.toList).foldlM Typed.type? {}).map fun typed =>
      String.ofList typed.text.reverse
  else some line

end DiceWords.Terminal
