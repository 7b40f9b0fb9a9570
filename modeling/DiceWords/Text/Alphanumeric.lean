import DiceWords.Text.Alphanumeric.Table

/-! # Letters and numbers of any script -/

namespace DiceWords.Text

/-- Whether a character is a letter or a number. -/
def isAlphanumeric (c : Char) : Bool :=
  if c.toNat < 0x80 then c.isAlphanum else alphanumericCodePoints.has c

end DiceWords.Text
