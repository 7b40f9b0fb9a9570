import DiceWords.Sign
import DiceWords.Spec
import DiceWords.Text.Decimal

/-! # The clauses of a written term

A term is written as an optional repeat count with `#`, a dice count, a die letter, an optional
keep clause and an optional modifier. It is looked for at the start of a text, and whatever follows
it is left alone. Digits after a sign that lead on to a die letter or to `#` are no modifier but
begin the next term. The main statement is `eq_chars_append_of_match?`: a term found in a text is
written there, and the rest stands behind it. -/

namespace DiceWords

/-- The clauses of one written term. Numbers are kept as their digits, since a run of digits of any
length may be written. -/
structure Clauses where
  repeats : Option (List Char)
  amount : List Char
  die : Die
  keep : Option (Keep.Side × List Char)
  modifier : Option (Sign × List Char)
deriving DecidableEq, Repr

namespace Clauses

/-! ## Writing -/

/-- A repeat clause as it is written. -/
def repeatsChars : Option (List Char) → List Char
  | none => []
  | some digits => digits ++ ['#']

/-- A keep clause as it is written. -/
def keepChars : Option (Keep.Side × List Char) → List Char
  | none => []
  | some (side, digits) => side.letters.toList ++ digits

/-- A modifier as it is written. -/
def modifierChars : Option (Sign × List Char) → List Char
  | none => []
  | some (sign, digits) => sign.char :: digits

/-- The term as it is written, without its repeat clause. -/
def sourceChars (clauses : Clauses) : List Char :=
  clauses.amount ++ clauses.die.letter :: keepChars clauses.keep ++
    modifierChars clauses.modifier

/-- The term as it is written. -/
def chars (clauses : Clauses) : List Char :=
  repeatsChars clauses.repeats ++ clauses.sourceChars

/-! ## Finding -/

/-- The repeat clause at the start of a text, if there is one, and what follows. -/
def takeRepeats (text : List Char) : Option (List Char) × List Char :=
  match Text.number? text with
  | some (digits, '#' :: rest) => (some digits, rest)
  | _ => (none, text)

/-- The letters of a keep clause at the start of a text, and what follows. -/
def takeSide? : List Char → Option (Keep.Side × List Char)
  | 'k' :: 'h' :: rest => some (.high, rest)
  | 'k' :: 'l' :: rest => some (.low, rest)
  | _ => none

/-- The keep clause at the start of a text, if there is one, and what follows. Letters without a
count are no keep clause. -/
def takeKeep (text : List Char) : Option (Keep.Side × List Char) × List Char :=
  match takeSide? text with
  | none => (none, text)
  | some (side, counted) =>
    match Text.number? counted with
    | none => (none, text)
    | some (digits, rest) => (some (side, digits), rest)

/-- Whether digits in front of the text would belong to a term: as its repeat count or as its dice
count. -/
def continuesTerm : List Char → Bool
  | [] => false
  | c :: _ => c == '#' || (Die.ofLetter? c).isSome

/-- The sign at the start of a text, and what follows. -/
def takeSign? : List Char → Option (Sign × List Char)
  | [] => none
  | c :: rest => (Sign.ofChar? c).map fun sign => (sign, rest)

/-- The modifier at the start of a text, if there is one, and what follows. -/
def takeModifier (text : List Char) : Option (Sign × List Char) × List Char :=
  match takeSign? text with
  | none => (none, text)
  | some (sign, counted) =>
    match Text.number? counted with
    | none => (none, text)
    | some (digits, rest) => if continuesTerm rest then (none, text) else (some (sign, digits), rest)

/-- The die letter at the start of a text, and what follows. -/
def takeDie? : List Char → Option (Die × List Char)
  | [] => none
  | c :: rest => (Die.ofLetter? c).map fun die => (die, rest)

/-- What stands in front of the keep clause: the counts and the die letter. -/
def takeDice? (text : List Char) :
    Option ((Option (List Char) × List Char × Die) × List Char) :=
  match Text.number? (takeRepeats text).2 with
  | none => none
  | some (amount, lettered) =>
    (takeDie? lettered).map fun (die, rest) => (((takeRepeats text).1, amount, die), rest)

/-- The term at the start of a text, if there is one, and what follows. -/
def match? (text : List Char) : Option (Clauses × List Char) :=
  (takeDice? text).map fun ((repeats, amount, die), rest) =>
    let kept := takeKeep rest
    let modified := takeModifier kept.2
    ({ repeats, amount, die, keep := kept.1, modifier := modified.1 }, modified.2)

/-! ## What is found is written there -/

/-- The repeat clause and what follows it are the text. -/
theorem takeRepeats_append (text : List Char) :
    repeatsChars (takeRepeats text).1 ++ (takeRepeats text).2 = text := by
  unfold takeRepeats
  split
  · next digits rest found =>
    simp [repeatsChars, (Text.number?_eq_some found).1]
  · rfl

/-- The letters of a keep clause are written where they are found. -/
theorem takeSide?_eq_some {text rest : List Char} {side : Keep.Side}
    (found : takeSide? text = some (side, rest)) : text = side.letters.toList ++ rest := by
  unfold takeSide? at found
  split at found <;> simp_all <;> obtain ⟨rfl, rfl⟩ := found <;> rfl

/-- The keep clause and what follows it are the text. -/
theorem takeKeep_append (text : List Char) :
    keepChars (takeKeep text).1 ++ (takeKeep text).2 = text := by
  unfold takeKeep
  split
  · rfl
  · next side counted lettered =>
    split
    · rfl
    · next digits rest found =>
      simp [keepChars, takeSide?_eq_some lettered, (Text.number?_eq_some found).1]

/-- A sign is written where it is found. -/
theorem takeSign?_eq_some {text rest : List Char} {sign : Sign}
    (found : takeSign? text = some (sign, rest)) : text = sign.char :: rest := by
  cases text with
  | nil => contradiction
  | cons c after =>
    obtain ⟨other, read, same⟩ := Option.map_eq_some_iff.mp found
    obtain ⟨rfl, rfl⟩ := Prod.mk.inj same
    rw [Sign.ofChar?_eq_some read]

/-- The modifier and what follows it are the text. -/
theorem takeModifier_append (text : List Char) :
    modifierChars (takeModifier text).1 ++ (takeModifier text).2 = text := by
  unfold takeModifier
  split
  · rfl
  · next sign counted signed =>
    split
    · rfl
    · next digits rest found =>
      split
      · rfl
      · simp [modifierChars, takeSign?_eq_some signed, (Text.number?_eq_some found).1]

/-- A die letter is written where it is found. -/
theorem takeDie?_eq_some {text rest : List Char} {die : Die}
    (found : takeDie? text = some (die, rest)) : text = die.letter :: rest := by
  cases text with
  | nil => contradiction
  | cons c after =>
    obtain ⟨other, read, same⟩ := Option.map_eq_some_iff.mp found
    obtain ⟨rfl, rfl⟩ := Prod.mk.inj same
    rw [Die.ofLetter?_eq_some read]

/-- The counts and the letter are written where they are found. -/
theorem takeDice?_eq_some {text rest : List Char} {repeats : Option (List Char)}
    {amount : List Char} {die : Die} (found : takeDice? text = some ((repeats, amount, die), rest)) :
    text = repeatsChars repeats ++ amount ++ die.letter :: rest := by
  unfold takeDice? at found
  have whole := takeRepeats_append text
  split at found
  · contradiction
  · next count lettered counted =>
    obtain ⟨⟨named, after⟩, letter, same⟩ := Option.map_eq_some_iff.mp found
    obtain ⟨sameClauses, rfl⟩ := Prod.mk.inj same
    obtain ⟨rfl, rfl, rfl⟩ := sameClauses
    rw [(Text.number?_eq_some counted).1, takeDie?_eq_some letter] at whole
    rw [List.append_assoc]
    exact whole.symm

/-- A term found at the start of a text is written there, with the rest behind it. -/
theorem eq_chars_append_of_match? {text rest : List Char} {clauses : Clauses}
    (found : match? text = some (clauses, rest)) : text = clauses.chars ++ rest := by
  obtain ⟨⟨⟨repeats, amount, die⟩, after⟩, dice, same⟩ := Option.map_eq_some_iff.mp found
  simp only [Prod.mk.injEq] at same
  rw [← same.1, ← same.2]
  have keeps := takeKeep_append after
  have modifies := takeModifier_append (takeKeep after).2
  simp only [chars, sourceChars, List.append_assoc, List.cons_append, modifies, keeps]
  rw [takeDice?_eq_some dice, List.append_assoc]

/-- A written term is at least a digit and a letter long. -/
theorem length_rest_lt_of_match? {text rest : List Char} {clauses : Clauses}
    (found : match? text = some (clauses, rest)) : rest.length < text.length := by
  rw [eq_chars_append_of_match? found]
  simp only [chars, sourceChars, List.length_append, List.length_cons]
  omega

end Clauses

end DiceWords
