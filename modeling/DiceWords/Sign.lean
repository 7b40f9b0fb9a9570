import DiceWords.Word64

/-! # Signs -/

namespace DiceWords

/-- How a term of a chain combines with those before it. -/
inductive Sign where
  | plus
  | minus
deriving DecidableEq, Repr

namespace Sign

/-- The sign as it is written. -/
def char : Sign → Char
  | plus => '+'
  | minus => '-'

/-- The sign that a character stands for. -/
def ofChar? : Char → Option Sign
  | '+' => some plus
  | '-' => some minus
  | _ => none

/-- The sign as a text. -/
def text (sign : Sign) : String :=
  sign.char.toString

/-- A total with the sign applied, kept in range. -/
def apply : Sign → Int → Int
  | plus, n => n
  | minus, n => saturate (-n)

/-- The number that a sign and a magnitude stand for. -/
def number : Sign → Nat → Int
  | plus, n => n
  | minus, n => -n

/-- A sign is read back from its character. -/
@[simp] theorem ofChar?_char (sign : Sign) : ofChar? sign.char = some sign := by
  cases sign <;> rfl

/-- Only its character stands for a sign. -/
theorem ofChar?_eq_some {c : Char} {sign : Sign} (found : ofChar? c = some sign) :
    c = sign.char := by
  unfold ofChar? at found
  split at found <;> simp_all <;> subst found <;> rfl

@[simp] theorem char_inj {sign other : Sign} : sign.char = other.char ↔ sign = other := by
  cases sign <;> cases other <;> decide

end Sign

end DiceWords
