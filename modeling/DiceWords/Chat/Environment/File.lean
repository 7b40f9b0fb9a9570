import DiceWords.Chat.Environment
import DiceWords.Text.Alphanumeric
import DiceWords.Text.Blank

/-! # Files of environment variables

Each line of such a file provides one variable as `NAME=value`. Blank lines and lines that begin
with `#` provide none, and the word `export` may stand in front of a name. A value ends at a space,
behind which only a comment may follow. Quotes keep spaces, and `$NAME` or a name in braces stands
for the value of another variable, except between single quotes. A line that breaks these rules ends
the reading of the file; the lines before it still hold. -/

namespace DiceWords.Chat

namespace Setting

/-- Whether a character may begin the name of a variable. -/
def startsName (c : Char) : Bool :=
  c.isAlpha || c == '_'

/-- Whether a character may go on with the name of a variable. -/
def continuesName (c : Char) : Bool :=
  c.isAlphanum || c == '_' || c == '.'

/-- The name at the start of a text, and what follows. -/
def name? (text : List Char) : Option (String × List Char) :=
  if text.head?.any startsName then
    some (String.ofList (text.takeWhile continuesName), text.dropWhile continuesName)
  else none

/-- What follows the equals sign at the start of a text, blanks skipped. -/
def afterEquals? : List Char → Option (List Char)
  | '=' :: rest => some (Text.trimStart rest)
  | _ => none

/-- Where in a value the reader is. -/
inductive Place where
  /-- Outside of all below. -/
  | plain
  /-- Between single quotes. -/
  | singleQuoted
  /-- Behind a backslash. -/
  | escaped
  /-- In a name of letters and numbers after `$`, of which these have been read. -/
  | reference (name : List Char)
  /-- In a name in braces after `$`. -/
  | braced (name : List Char)
  /-- Behind the value. -/
  | ended
deriving DecidableEq, Repr

/-- Read on in a value, where `quoted` says whether a double quote is open. Outside single quotes
and references a backslash stands before a quote, a dollar sign, a space, another backslash, or the
`n` of a line end. -/
def valueFrom (lookup : String → String) :
    Place → (quoted : Bool) → List Char → Option (List Char)
  | place, quoted, [] =>
    match place with
    | .singleQuoted | .braced _ => none
    | .reference name =>
      if quoted then none else some (lookup (String.ofList name)).toList
    | .plain | .escaped | .ended => if quoted then none else some []
  | .ended, quoted, c :: rest =>
    if c = ' ' || c = '\t' then valueFrom lookup .ended quoted rest
    else if c = '#' then some []
    else none
  | .escaped, quoted, c :: rest =>
    if c = '\\' || c = '\'' || c = '"' || c = '$' || c = ' ' then
      (valueFrom lookup .plain quoted rest).map (c :: ·)
    else if c = 'n' then (valueFrom lookup .plain quoted rest).map ('\n' :: ·)
    else none
  | .singleQuoted, quoted, c :: rest =>
    if c = '\'' then valueFrom lookup .plain quoted rest
    else (valueFrom lookup .singleQuoted quoted rest).map (c :: ·)
  | .reference name, quoted, c :: rest =>
    if Text.isAlphanumeric c then valueFrom lookup (.reference (name ++ [c])) quoted rest
    else if c = '\x7b' && name.isEmpty then valueFrom lookup (.braced []) quoted rest
    else
      let value := (lookup (String.ofList name)).toList
      if c = '$' then (valueFrom lookup (.reference []) quoted rest).map (value ++ ·)
      else (valueFrom lookup .plain quoted rest).map (value ++ c :: ·)
  | .braced name, quoted, c :: rest =>
    if c = '\x7d' then
      (valueFrom lookup .plain quoted rest).map ((lookup (String.ofList name)).toList ++ ·)
    else valueFrom lookup (.braced (name ++ [c])) quoted rest
  | .plain, quoted, c :: rest =>
    if c = '$' then valueFrom lookup (.reference []) quoted rest
    else if c = '"' then valueFrom lookup .plain (!quoted) rest
    else if c = '\\' then valueFrom lookup .escaped quoted rest
    else if quoted then (valueFrom lookup .plain quoted rest).map (c :: ·)
    else if c = '\'' then valueFrom lookup .singleQuoted quoted rest
    else if c = ' ' || c = '\t' then valueFrom lookup .ended quoted rest
    else (valueFrom lookup .plain quoted rest).map (c :: ·)

/-- The value that a text stands for. -/
def value? (lookup : String → String) (text : List Char) : Option String :=
  if text.head?.any (· == '#') then some ""
  else (valueFrom lookup .plain false text).map String.ofList

/-- The name at the start of a setting and the text of its value. -/
def parts? (text : List Char) : Option (String × List Char) := do
  let (name, rest) ← name? text
  let rest := Text.trimStart rest
  match afterEquals? rest with
  | some value => return (name, value)
  | none =>
    if name == "export" then
      let (name, rest) ← name? rest
      return (name, ← afterEquals? (Text.trimStart rest))
    else failure

end Setting

namespace Environment

/-- The environment after one line of a file, unless the line breaks the rules. -/
def loadLine? (environment : Environment) (line : String) : Option Environment :=
  let text := Text.trim line.toList
  if text.isEmpty || text.head? == some '#' then some environment
  else do
    let (name, text) ← Setting.parts? text
    let value ← Setting.value? (fun name => (environment.get? name).getD "") text
    return environment.provide name value

/-- The environment after some lines of a file, and whether all of them kept the rules. -/
def loadLines (environment : Environment) : List String → Environment × Bool
  | [] => (environment, true)
  | line :: rest =>
    match environment.loadLine? line with
    | none => (environment, false)
    | some environment => environment.loadLines rest

/-- The environment after a whole file, and whether all of its lines kept the rules. -/
def load (environment : Environment) (file : String) : Environment × Bool :=
  environment.loadLines (file.splitOn "\n")

end Environment

end DiceWords.Chat
