import DiceWords.Chat.Message
import DiceWords.Text.Quoted

/-! # Commands to the bot

A message whose first character that is not blank is the sigil, with something behind it, is a
command. Its name ends at the first blank. Only the bot's owner can make it quit; from anyone else
that command is not even noted. -/

namespace DiceWords.Chat

/-- A command that the bot knows. -/
inductive Command where
  | ping
  | quit
deriving DecidableEq, Repr

namespace Command

/-- The name of the command that a message gives, known or not. -/
def name? (message : Message) : Option String :=
  if message.byBot then none
  else
    match Text.trimStart message.content.toList with
    | [] | [_] => none
    | first :: rest =>
      if first = commandSigil then
        some (String.ofList (rest.takeWhile fun c => !Text.isBlank c))
      else none

/-- The command of a name. -/
def ofName? : String → Option Command
  | "ping" => some ping
  | "quit" => some quit
  | _ => none

/-- The name of a command. -/
def name : Command → String
  | ping => "ping"
  | quit => "quit"

/-- Whether anyone but the owner can give the command. -/
def isForAll : Command → Bool
  | ping => true
  | quit => false

end Command

/-- What a command has done, and whether the bot goes on. -/
structure Handled where
  trace : Trace := {}
  shutsDown : Bool := false
deriving DecidableEq, Repr

namespace Command

/-- The reply of a command. -/
def reply : Command → String
  | ping => "**info** *pong*"
  | quit => "**info** *shutting down*"

/-- What a command logs by itself before it replies. -/
def opening (message : Message) : Command → Trace
  | ping => {}
  | quit => .note .info ("Received `" ++ Text.quoted message.content ++ "`")

/-- What a command does once it has replied. -/
def closing : Command → Trace
  | ping => {}
  | quit => .call .shutdown

/-- Run a command that its giver may give. -/
def run (refuses : Refusals) (message : Message) (command : Command) : Handled :=
  let call := message.reply command.reply
  let opened :=
    .note .info ("Got command `" ++ command.name ++ "` by user `" ++ message.author ++ "`") ++
      command.opening message ++ .call call
  match refuses call with
  | some why =>
    { trace := opened ++
        .note .error ("Command `" ++ command.name ++ "` returned error `" ++ why ++ "`") }
  | none =>
    { trace := opened ++ command.closing ++
        .note .info ("Processed command `" ++ command.name ++ "`")
      shutsDown := command == quit }

/-- Deal with the command in a message, if there is one. -/
def receive (refuses : Refusals) (owner : Nat) (message : Message) : Handled :=
  match name? message with
  | none => {}
  | some name =>
    match ofName? name with
    | none => { trace := .note .warn ("Could not find command named `" ++ name ++ "`") }
    | some command =>
      if command.isForAll || message.authorId == owner then command.run refuses message else {}

end Command

end DiceWords.Chat
