/-! # Log entries -/

namespace DiceWords.Chat

/-- How much a log entry matters. -/
inductive Level where
  | error
  | warn
  | info
  | debug
deriving DecidableEq, Repr

/-- One line of the log. -/
structure LogEntry where
  level : Level
  text : String
deriving DecidableEq, Repr

end DiceWords.Chat
