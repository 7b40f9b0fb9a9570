/-! # Colored text

A terminal colors what stands between a control sequence that sets a style and the one that resets
all styles. Where the text itself resets the style, the style is set again behind it. -/

namespace DiceWords.Terminal

/-- The styles in which whole texts are printed. -/
inductive Style where
  | boldRed
  | red
  | boldGreen
  | yellow
  | boldYellow
  | dim
deriving DecidableEq, Repr

/-- The control sequence with the given parameters. -/
def control (parameters : String) : List Char :=
  '\x1b' :: '[' :: parameters.toList ++ ['m']

namespace Style

/-- The parameters that set a style. -/
def parameters : Style → String
  | boldRed => "1;31"
  | red => "31"
  | boldGreen => "1;32"
  | yellow => "33"
  | boldYellow => "1;33"
  | dim => "2"

/-- The control sequence that sets a style. -/
def start (style : Style) : List Char :=
  control style.parameters

/-- The text with the style set again behind each reset in it. -/
def resume (style : Style) : List Char → List Char
  | '\x1b' :: '[' :: '0' :: 'm' :: rest => control "0" ++ style.start ++ style.resume rest
  | c :: rest => c :: style.resume rest
  | [] => []

/-- A text in a style. -/
def paint (style : Style) (text : String) : String :=
  String.ofList (style.start ++ style.resume text.toList ++ control "0")

end Style

end DiceWords.Terminal
