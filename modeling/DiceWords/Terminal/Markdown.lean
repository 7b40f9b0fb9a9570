import DiceWords.Terminal.Style

/-! # Markdown on a terminal

Results are written in the two marks of markdown that they need: code between backticks and bold
text between double asterisks. On a terminal code stands on a dark ground, and bold text is bright.
Inside code every other character stands for itself. -/

namespace DiceWords.Terminal

namespace Markdown

/-- What the text at some point is inside of. -/
inductive Inside where
  | plain
  | code
  | bold
deriving DecidableEq, Repr

/-- What begins code. -/
def codeStart : List Char :=
  control "48;5;235" ++ control "38;5;13"

/-- What ends code. -/
def codeEnd : List Char :=
  control "49" ++ control "39"

/-- What begins bold text. -/
def boldStart : List Char :=
  control "38;5;11" ++ control "1"

/-- What ends bold text. -/
def boldEnd : List Char :=
  control "0"

/-- The rest of a text, which begins inside of something. -/
def renderFrom : Inside → List Char → List Char
  | .plain, '`' :: rest => codeStart ++ renderFrom .code rest
  | .code, '`' :: rest => codeEnd ++ renderFrom .plain rest
  | .plain, '*' :: '*' :: rest => boldStart ++ renderFrom .bold rest
  | .bold, '*' :: '*' :: rest => boldEnd ++ renderFrom .plain rest
  | inside, c :: rest => c :: renderFrom inside rest
  | _, [] => []

/-- A whole text as it is printed. -/
def render (text : String) : String :=
  String.ofList (renderFrom .plain text.toList)

end Markdown

end DiceWords.Terminal
