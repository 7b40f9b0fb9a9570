import DiceWords.Error

/-! # The three kinds of dice

A die shows a uniform draw from `1` to its number of sides, less an offset of half of that: the
values lie around zero, with one more above it than below. -/

namespace DiceWords

/-- A kind of die. -/
inductive Die where
  /-- Twelve sides, `-5` to `6`. -/
  | f
  /-- Eighteen sides, `-8` to `9`. -/
  | r
  /-- Twenty-four sides, `-11` to `12`. -/
  | t
deriving DecidableEq, Repr

namespace Die

/-- The number of sides. -/
def sides : Die → Int
  | f => 12
  | r => 18
  | t => 24

/-- What is taken from a draw to get the value shown. -/
def offset : Die → Int
  | f => 6
  | r => 9
  | t => 12

/-- The lowest value shown. -/
def lowest (die : Die) : Int :=
  1 - die.offset

/-- The highest value shown. -/
def highest (die : Die) : Int :=
  die.sides - die.offset

/-- The letter that names the die. -/
def letter : Die → Char
  | f => 'f'
  | r => 'r'
  | t => 't'

/-- The die that a letter names. -/
def ofLetter? : Char → Option Die
  | 'f' => some f
  | 'r' => some r
  | 't' => some t
  | _ => none

/-- The die that a text names. -/
def read (text : String) : Except Error Die :=
  match text.toList with
  | [c] => (ofLetter? c).elim (.error (.unknownDie text)) .ok
  | _ => .error (.unknownDie text)

/-- The letter names its die. -/
@[simp] theorem ofLetter?_letter (die : Die) : ofLetter? die.letter = some die := by
  cases die <;> rfl

/-- A letter names at most one die. -/
theorem ofLetter?_eq_some {c : Char} {die : Die} (named : ofLetter? c = some die) :
    c = die.letter := by
  unfold ofLetter? at named
  split at named <;> simp_all <;> subst named <;> rfl

/-- The letter of a die is read as this die. -/
theorem read_letter (die : Die) : read (String.singleton die.letter) = .ok die := by
  cases die <;> rfl

end Die

end DiceWords
