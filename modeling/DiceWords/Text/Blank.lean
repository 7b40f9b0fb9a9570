/-! # Blank characters, words and trimming

A character is blank when it has the Unicode property `White_Space`. A text falls apart into
maximal runs of blank and of other characters; its words are the runs of the second kind. Nothing
is lost between the runs, so a text can be rebuilt around its words. -/

namespace DiceWords.Text

/-- Whether a character has the Unicode property `White_Space`. -/
def isBlank (c : Char) : Bool :=
  let n := c.toNat
  (0x09 ≤ n && n ≤ 0x0D) || n == 0x20 || n == 0x85 || n == 0xA0 || n == 0x1680 ||
    (0x2000 ≤ n && n ≤ 0x200A) || n == 0x2028 || n == 0x2029 || n == 0x202F || n == 0x205F ||
    n == 0x3000

/-- A text without the blanks at its start. -/
def trimStart (text : List Char) : List Char :=
  text.dropWhile isBlank

/-- A text without the blanks at its end. -/
def trimEnd (text : List Char) : List Char :=
  (text.reverse.dropWhile isBlank).reverse

/-- A text without the blanks at either end. -/
def trim (text : List Char) : List Char :=
  trimEnd (trimStart text)

/-- The maximal runs of blank characters and of characters that are not blank, in order. -/
def runs (text : List Char) : List (List Char) :=
  text.splitBy fun left right => isBlank left == isBlank right

/-- Whether a run is made of characters that are not blank. -/
def isWord (run : List Char) : Bool :=
  run.head?.any fun c => !isBlank c

/-- The words of a text, separated by blanks, in order. -/
def words (text : String) : List String :=
  ((runs text.toList).filter isWord).map String.ofList

/-- A text all of whose characters are blank. -/
def isAllBlank (text : String) : Bool :=
  text.toList.all isBlank

end DiceWords.Text
