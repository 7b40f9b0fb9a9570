import DiceWords.Chat.Log
import DiceWords.Query

/-! # Scanning a message for dice

Every word of a message is looked at in turn. A dice expression is thrown and adds its result to
the reply, a word that the writer got wrong adds an error line, and all other words add nothing. The
scan stops at the first expression that would bring the dice of the message over a budget, and once
the lines so far, each with a line end, are longer in UTF-8 than a message may be. After that no
word changes anything, so a scan can be taken up again where an earlier one ended. -/

namespace DiceWords.Chat

/-- The longest message that can be sent. -/
def maxMessageLength : Nat := 2000

/-- The most dice thrown for one message. -/
def maxFacesPerMessage : Nat := 20000

/-- An error as it is shown in a reply. -/
def errorLine (error : Error) : String :=
  "**error** *" ++ error.text ++ "*"

/-- The line that tells that the budget is used up. -/
def budgetLine : String :=
  "**error** *too many dice in one message*"

/-- What has been found in a message. -/
structure Scan where
  /-- Results and error lines, in the order of the words. -/
  lines : List String := []
  /-- The ends of dice that came up among the faces that count. -/
  extremes : Extremes := {}
  /-- How many dice were thrown. -/
  faces : Nat := 0
  /-- Failures that the writer cannot mend, with their words. -/
  unexpected : List (String × Error) := []
deriving DecidableEq, Repr

namespace Scan

/-- The length of the lines in UTF-8, each with a line end. -/
def size (found : Scan) : Nat :=
  (found.lines.map fun line => line.utf8ByteSize + 1).foldr (· + ·) 0

/-- The reply to the message, if anything was found. -/
def reply? (found : Scan) : Option String :=
  if found.lines.isEmpty then none else some ("\n".intercalate found.lines)

/-- The scan with one more line. -/
def addLine (found : Scan) (line : String) : Scan :=
  { found with lines := found.lines ++ [line] }

/-- The scan with the result of an expression that threw so many dice. -/
def addResult (found : Scan) (faces : Nat) (result : Result) : Scan :=
  { found.addLine result.text with
    extremes := found.extremes.union result.extremes
    faces := found.faces + faces }

/-- A scan under way. -/
structure Progress where
  found : Scan := {}
  /-- Whether a limit has been met; later words change nothing. -/
  stopped : Bool := false
  log : List LogEntry := []
deriving DecidableEq, Repr

namespace Progress

/-- Stop at a limit. -/
def stop (progress : Progress) (why : String) : Progress :=
  { progress with stopped := true, log := progress.log ++ [⟨.debug, why⟩] }

variable {σ : Type}

/-- Look at one more word. -/
def step (options : Options) (source : Source σ) (progress : Progress) (word : String) :
    StateM σ Progress :=
  let found := progress.found
  let query := Query.ofWord word
  if progress.stopped then pure progress
  else if maxMessageLength < found.size then
    pure (progress.stop "Reply is full, skipping the rest of the message")
  else
    match query.parse options with
    | .ok none => pure progress
    | .ok (some expression) =>
      if maxFacesPerMessage < found.faces + expression.faces then
        pure { progress.stop ("`" ++ word ++ "` exceeds the dice budget") with
          found := found.addLine budgetLine }
      else do
        let result ← query.roll source expression
        return { progress with
          found := found.addResult expression.faces result
          log := progress.log ++ [⟨.debug, "Rolled `" ++ result.query ++ "`"⟩] }
    | .error error =>
      if error.isUserError then pure { progress with found := found.addLine (errorLine error) }
      else
        pure { progress with
          found := { found with unexpected := found.unexpected ++ [(word, error)] } }

end Progress

end Scan

/-- Look at every word of a message. -/
def scan {σ : Type} (options : Options) (source : Source σ) (content : String) :
    StateM σ Scan.Progress :=
  (Text.words content).foldlM (Scan.Progress.step options source) {}

end DiceWords.Chat
