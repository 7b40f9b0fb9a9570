import DiceWords.Chat.Log

/-! # What the bot does

All that the bot does to the chat platform is a list of calls; the platform may refuse any of them,
in words of its own. A call that is refused has still been attempted. Beside the calls the bot keeps
a log. -/

namespace DiceWords.Chat

/-- A call to the chat platform. -/
inductive Call where
  /-- Ask who owns the bot. -/
  | appInfo (token : String)
  /-- Set up a connection. -/
  | client (token : String)
  /-- Begin to take events. -/
  | start
  /-- Close the connection. -/
  | shutdown
  /-- Answer a message and call its author's attention. -/
  | replyPing (channel : Nat) (text : String)
  /-- Write to a channel. -/
  | say (channel : Nat) (text : String)
  /-- Put an emoji under a message that the bot has sent. -/
  | react (channel : Nat) (emoji : String)
deriving DecidableEq, Repr

/-- The calls that the platform refuses, each with the words in which it does. -/
abbrev Refusals := Call → Option String

/-- What has been done, in order. -/
structure Trace where
  calls : List Call := []
  log : List LogEntry := []
deriving DecidableEq, Repr

namespace Trace

/-- One thing done after another. -/
def append (first second : Trace) : Trace where
  calls := first.calls ++ second.calls
  log := first.log ++ second.log

instance : Append Trace := ⟨append⟩

@[simp] theorem calls_append (first second : Trace) :
    (first ++ second).calls = first.calls ++ second.calls := rfl

@[simp] theorem log_append (first second : Trace) :
    (first ++ second).log = first.log ++ second.log := rfl

/-- One attempted call. -/
def call (call : Call) : Trace where
  calls := [call]

/-- One line of the log. -/
def note (level : Level) (text : String) : Trace where
  log := [⟨level, text⟩]

/-- A call, and what follows when it is refused or taken. -/
def attempt (refuses : Refusals) (made : Call) (onRefusal : String → Trace) (onSuccess : Trace) :
    Trace :=
  call made ++
    match refuses made with
    | some why => onRefusal why
    | none => onSuccess

/-- All that is done in several steps. -/
def concat (traces : List Trace) : Trace :=
  traces.foldl append {}

end Trace

end DiceWords.Chat
