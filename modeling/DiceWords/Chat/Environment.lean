/-! # Environment variables -/

namespace DiceWords.Chat

/-- The variables that are set, each with its value. -/
structure Environment where
  bindings : List (String × String) := []
deriving DecidableEq, Repr

namespace Environment

/-- The value of a variable, if it is set. -/
def get? (environment : Environment) (name : String) : Option String :=
  environment.bindings.lookup name

/-- The environment in which a variable has a value, unless it has one already. An empty value is
a value. -/
def provide (environment : Environment) (name value : String) : Environment :=
  if (environment.get? name).isSome then environment
  else { bindings := environment.bindings ++ [(name, value)] }

end Environment

end DiceWords.Chat
