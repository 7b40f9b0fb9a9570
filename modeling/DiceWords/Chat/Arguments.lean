import DiceWords.Limits
import DiceWords.Text.Decimal

/-! # Arguments of the bot

The bot takes two flags, `-d` or `--debug` and `-s` or `--single-digit`, and the option `-m` or
`--max-terms` with a number. Short flags can be written together, and the value of the option can be
attached to it, behind `=` or not. Arguments are read from the left, and the first fault ends the
reading. A value that stands apart from its option is judged only when the next flag is read or the
arguments end; until then a word that is no flag, or a flag that is not known, is the fault. -/

namespace DiceWords.Chat

/-- What the arguments set. -/
structure Arguments where
  debug : Bool := false
  singleDigit : Bool := false
  maxTerms : Nat := defaultMaxTerms
deriving DecidableEq, Repr

namespace Arguments

/-- Why arguments are not taken as they stand. -/
inductive Fault where
  /-- A flag that is not known, or a word where no word belongs. -/
  | unknown
  /-- The arguments end where a value should stand. -/
  | missingValue
  /-- The value is no number that fits. -/
  | notANumber
  /-- A flag or an option is given twice. -/
  | repeated
  /-- A flag is given a value. -/
  | unwantedValue
  | helpWanted
  | versionWanted
deriving DecidableEq, Repr

/-- What has been given so far. -/
structure Given where
  debug : Bool := false
  singleDigit : Bool := false
  maxTerms : Option Nat := none
deriving DecidableEq, Repr

namespace Given

def setDebug (given : Given) : Except Fault Given :=
  if given.debug then .error .repeated else .ok { given with debug := true }

def setSingleDigit (given : Given) : Except Fault Given :=
  if given.singleDigit then .error .repeated else .ok { given with singleDigit := true }

def setMaxTerms (given : Given) (value : List Char) : Except Fault Given :=
  if given.maxTerms.isSome then .error .repeated
  else
    match Text.count? value with
    | some n => .ok { given with maxTerms := some n }
    | none => .error .notANumber

/-- What the arguments set, with what was not given at its usual value. -/
def toArguments (given : Given) : Arguments where
  debug := given.debug
  singleDigit := given.singleDigit
  maxTerms := given.maxTerms.getD defaultMaxTerms

end Given

/-- The option in an argument of its own, and what stands behind it. -/
inductive Pending where
  /-- There is no such option. -/
  | absent
  /-- The value has not been read yet. -/
  | awaited
  /-- The value has been read but not judged. -/
  | held (value : List Char)
deriving DecidableEq, Repr

/-- Where the reading of arguments is. -/
structure Reading where
  given : Given := {}
  pending : Pending := .absent
deriving DecidableEq, Repr

namespace Reading

/-- What has been given, once the option that is pending is judged. -/
def settle (reading : Reading) : Except Fault Given :=
  match reading.pending with
  | .absent => .ok reading.given
  | .awaited => .error .missingValue
  | .held value => reading.given.setMaxTerms value

/-- Take a flag once the option that is pending is judged. -/
def take (reading : Reading) (set : Given → Except Fault Given) : Except Fault Reading := do
  return { given := ← set (← reading.settle) }

/-- The option without a value in the same argument. -/
def await (reading : Reading) : Except Fault Reading := do
  return { given := ← reading.settle, pending := .awaited }

/-- A fault that a known flag stands for, once the option that is pending is judged. -/
def stop (reading : Reading) (fault : Fault) : Except Fault Reading := do
  let _ ← reading.settle
  throw fault

/-- Short flags written together. -/
def short (reading : Reading) : List Char → Except Fault Reading
  | [] => .ok reading
  | 'd' :: flags => do short (← reading.take Given.setDebug) flags
  | 's' :: flags => do short (← reading.take Given.setSingleDigit) flags
  | 'h' :: _ => reading.stop .helpWanted
  | 'V' :: _ => reading.stop .versionWanted
  | ['m'] => reading.await
  | 'm' :: '=' :: value => reading.take fun given => given.setMaxTerms value
  | 'm' :: value => reading.take fun given => given.setMaxTerms value
  | _ => .error .unknown

/-- A long flag with its value, if one is attached. -/
def long (reading : Reading) (name : String) (value : Option (List Char)) :
    Except Fault Reading :=
  match name, value with
  | "max-terms", none => reading.await
  | "max-terms", some value => reading.take fun given => given.setMaxTerms value
  | "debug", none => reading.take Given.setDebug
  | "single-digit", none => reading.take Given.setSingleDigit
  | "help", none => reading.stop .helpWanted
  | "version", none => reading.stop .versionWanted
  | "debug", some _ | "single-digit", some _ | "help", some _ | "version", some _ =>
    .error .unwantedValue
  | _, _ => .error .unknown

/-- A long flag as it is written, with what is attached to it. -/
def longText (reading : Reading) (text : List Char) : Except Fault Reading :=
  let name := String.ofList (text.takeWhile (· != '='))
  match text.dropWhile (· != '=') with
  | [] => reading.long name none
  | _ :: value => reading.long name (some value)

/-- A word that is no flag: the value that is awaited, if one is. -/
def plain (reading : Reading) (word : List Char) : Except Fault Reading :=
  if reading.pending = .awaited then .ok { reading with pending := .held word }
  else .error .unknown

/-- One argument. A hyphen alone is no flag. -/
def word (reading : Reading) (argument : List Char) : Except Fault Reading :=
  match argument with
  | '-' :: '-' :: text => reading.longText text
  | '-' :: c :: flags => reading.short (c :: flags)
  | _ => reading.plain argument

/-- All arguments. Nothing may stand behind `--`. -/
def all (reading : Reading) : List String → Except Fault Given
  | [] => reading.settle
  | ["--"] => reading.settle
  | "--" :: _ => .error .unknown
  | argument :: rest => do (← reading.word argument.toList).all rest

end Reading

/-- What a list of arguments sets. -/
def parse (arguments : List String) : Except Fault Arguments :=
  (Reading.all {} arguments).map Given.toArguments

/-- The options that the arguments set for dice expressions. -/
def options (arguments : Arguments) : Options where
  singleDigit := arguments.singleDigit
  maxTerms := arguments.maxTerms

end Arguments

end DiceWords.Chat
