import DiceWords.Chat.Arguments
import DiceWords.Chat.Command
import DiceWords.Chat.Environment.File
import DiceWords.Chat.Responder

/-! # A session of the bot

A session begins with the configuration: variables are taken from the environment and from a file,
the platform is asked who owns the bot, and the connection is set up. Whatever is missing or refused
there ends the session before it has begun. Then events are handed to the bot one after another,
until there are no more or the connection is closed. A message goes to the responder first and to
the commands after that. -/

namespace DiceWords.Chat

/-- Something that happens on the platform, or an interrupt from the operator. -/
inductive Event where
  | ready (user : String) (guilds : Nat)
  | resumed
  | interrupt
  | message (message : Message)
deriving DecidableEq, Repr

/-- What a session finds when it begins. -/
structure Setup where
  arguments : Arguments := {}
  environment : Environment := {}
  /-- What the file of variables holds, if there is one. -/
  file : Option String := none
  /-- The user who owns the bot. -/
  owner : Nat

/-- The variable that holds the bot's token. -/
def tokenVariable : String :=
  "DISCORD_TOKEN"

/-- The variable that holds the operator's channel. -/
def operatorVariable : String :=
  "OPERATOR_CHANNEL_ID"

/-- What a session has done, and whether it got past its beginning. -/
structure Session where
  trace : Trace := {}
  started : Bool := true
deriving DecidableEq, Repr

namespace Session

/-- The variables that a session goes by; a file that is missing or breaks the rules is noted. -/
def configured (setup : Setup) : Environment × Trace :=
  let warning := Trace.note .warn "No `.env` file, reading the environment only"
  match setup.file with
  | none => (setup.environment, warning)
  | some file =>
    let (environment, complete) := setup.environment.load file
    (environment, if complete then {} else warning)

/-- The operator's channel, if a variable names one; a value that names none is noted. -/
def operator (environment : Environment) : Option Nat × Trace :=
  match environment.get? operatorVariable with
  | none => (none, {})
  | some value =>
    match Text.count? (Text.trim value.toList) with
    | some channel => (some channel, {})
    | none =>
      (none, .note .warn
        ("Env var `" ++ operatorVariable ++ "` is not a channel id: `" ++ value ++ "`"))

/-- One event, and whether the connection is closed after it. -/
def event {σ : Type} (source : Source σ) (refuses : Refusals) (responder : Responder)
    (owner : Nat) : Event → StateM σ Handled
  | .ready user guilds => pure { trace := responder.ready user guilds }
  | .resumed => pure { trace := Responder.resumed }
  | .interrupt => pure { trace := .call .shutdown, shutsDown := true }
  | .message message => do
    let answered ← responder.receive source refuses message
    let handled := Command.receive refuses owner message
    return { handled with trace := answered ++ handled.trace }

/-- Events in order, up to the one that closes the connection. -/
def events {σ : Type} (source : Source σ) (refuses : Refusals) (responder : Responder)
    (owner : Nat) : List Event → StateM σ Trace
  | [] => pure {}
  | next :: rest => do
    let handled ← event source refuses responder owner next
    if handled.shutsDown then return handled.trace
    else return handled.trace ++ (← events source refuses responder owner rest)

/-- Go on when the platform takes a call; note why the session ends when it refuses. -/
def require {σ : Type} (refuses : Refusals) (call : Call) (failure : String)
    (next : StateM σ Session) : StateM σ Session :=
  match refuses call with
  | some why =>
    pure { trace := .call call ++ .note .error (failure ++ ": " ++ why), started := false }
  | none => do
    let session ← next
    return { session with trace := .call call ++ session.trace }

/-- Go on after something has been done. -/
def after {σ : Type} (trace : Trace) (next : StateM σ Session) : StateM σ Session := do
  let session ← next
  return { session with trace := trace ++ session.trace }

/-- A session from its configuration to its end. -/
def run {σ : Type} (source : Source σ) (refuses : Refusals) (setup : Setup)
    (happens : List Event) : StateM σ Session :=
  let (environment, loaded) := configured setup
  after loaded <|
    match environment.get? tokenVariable with
    | none =>
      pure {
        trace := .note .error ("Env var `" ++ tokenVariable ++ "`: NotPresent")
        started := false }
    | some token =>
      require refuses (.appInfo token) "Could not access app info" <|
        let (channel, checked) := operator environment
        let responder := { options := setup.arguments.options, operator := channel }
        after checked <|
          require refuses (.client token) "Error creating client" <|
            require refuses .start "Client error" do
              return { trace := ← events source refuses responder setup.owner happens }

end Session

end DiceWords.Chat
