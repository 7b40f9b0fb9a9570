import DiceWords.Chat.Message

/-! # Answering messages

Messages by bots and messages that address the bot itself are passed over. All others are scanned,
and whatever is found there is answered with one reply. Once the reply is sent, each end of a die
that came up puts an emoji under it. When the reply is refused, that is reported to the operator's
channel, if there is one. -/

namespace DiceWords.Chat

/-- The part of the bot that answers messages. -/
structure Responder where
  options : Options := {}
  /-- The channel that failures are reported to. -/
  operator : Option Nat := none
deriving DecidableEq, Repr

/-- The emoji for an end of a die. -/
def emoji : Extreme → String
  | .highest => "🤩"
  | .lowest => "🥶"

/-- Put the emojis for the ends that came up under a reply in a channel. -/
def reactions (refuses : Refusals) (channel : Nat) (ends : Extremes) : Trace :=
  .concat <| ends.toList.map fun extreme =>
    .attempt refuses (.react channel (emoji extreme))
      (fun why => .note .debug ("Could not react to roll: " ++ why)) {}

namespace Responder

/-- Log that a message, or a word of it, could not be dealt with, and tell the operator. -/
def report (responder : Responder) (refuses : Refusals) (message : Message)
    (subject why : String) : Trace :=
  .note .error ("Failed to solve `" ++ subject ++ "` from `" ++ message.author ++ "`: " ++ why) ++
    match responder.operator with
    | none => {}
    | some operator =>
      .attempt refuses
        (.say operator ("**failure** solving `" ++ subject ++ "` for **" ++ message.author ++
          "** in <#" ++ toString message.channel ++ ">\n" ++ why))
        (fun why => .note .error ("Could not reach operator channel: " ++ why)) {}

/-- Send a reply, and put the emojis under it. -/
def send (responder : Responder) (refuses : Refusals) (message : Message) (reply : String)
    (ends : Extremes) : Trace :=
  (if message.guild.isNone then
    .note .debug ("Rolling in direct message with `" ++ message.author ++ "`")
  else {}) ++
    .attempt refuses (message.reply reply)
      (responder.report refuses message message.content)
      (reactions refuses message.channel ends)

/-- Answer what was found in a message. -/
def respond (responder : Responder) (refuses : Refusals) (message : Message) (found : Scan) :
    Trace :=
  .concat (found.unexpected.map fun (word, error) =>
    responder.report refuses message word (errorLine error)) ++
    match found.reply? with
    | none => {}
    | some reply => responder.send refuses message reply found.extremes

/-- Whether a message is passed over. -/
def ignores (message : Message) : Bool :=
  message.byBot || message.content.toList.head? == some commandSigil

/-- Deal with a message. -/
def receive {σ : Type} (responder : Responder) (source : Source σ) (refuses : Refusals)
    (message : Message) : StateM σ Trace :=
  if ignores message then pure {}
  else do
    let scanned ← scan responder.options source message.content
    return { log := scanned.log : Trace } ++ responder.respond refuses message scanned.found

/-- Note that the connection is up. -/
def ready (responder : Responder) (user : String) (guilds : Nat) : Trace :=
  .note .info ("Connected as `" ++ user ++ "` in " ++ toString guilds ++ " guilds") ++
    if responder.operator.isNone then
      .note .info "No operator channel, failures are only logged"
    else {}

/-- Note that the connection is back. -/
def resumed : Trace :=
  .note .debug "Resumed"

end Responder

end DiceWords.Chat
