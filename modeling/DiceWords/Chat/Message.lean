import DiceWords.Chat.Scan
import DiceWords.Chat.Trace

/-! # Messages and replies to them -/

namespace DiceWords.Chat

/-- The sign with which a message addresses the bot itself. -/
def commandSigil : Char := '!'

/-- A message that the bot sees. -/
structure Message where
  content : String
  author : String
  authorId : Nat
  /-- Whether the author is a bot. -/
  byBot : Bool
  /-- The guild it was written in; none for a direct message. -/
  guild : Option Nat
  channel : Nat
deriving DecidableEq, Repr

/-- What stands for the part of a text that is left out. -/
def ellipsis : Char := '…'

/-- A text that fits in one message: one that is too long is cut and ends in an ellipsis. Lengths
are counted in characters. -/
def fitMessage (text : String) : String :=
  if text.length ≤ maxMessageLength then text
  else String.ofList (text.toList.take (maxMessageLength - 1) ++ [ellipsis])

/-- The reply to a message: with a ping in a guild, plainly in a direct message. -/
def Message.reply (message : Message) (text : String) : Call :=
  match message.guild with
  | some _ => .replyPing message.channel (fitMessage text)
  | none => .say message.channel (fitMessage text)

/-- A text short enough is sent as it is. -/
theorem fitMessage_eq_self {text : String} (short : text.length ≤ maxMessageLength) :
    fitMessage text = text :=
  if_pos short

/-- Every text is made to fit. -/
theorem length_fitMessage_le (text : String) : (fitMessage text).length ≤ maxMessageLength := by
  unfold fitMessage
  split
  · assumption
  · simp only [String.length_ofList, List.length_append, List.length_take, List.length_singleton,
      maxMessageLength]
    omega

end DiceWords.Chat
