import DiceWords.Text.Decimal

/-! # Numerals

A numeral is a run of ASCII digits that is not empty. Reading a number takes the longest numeral at
the start of a text and nothing else (`number?_eq_some_iff`), so a numeral is read as it stands
exactly when no digit follows it. Every count has a numeral that stands for it
(`value_toDigits`). -/

namespace DiceWords.Text

/-- A run of ASCII digits that is not empty. -/
structure Numeral (digits : List Char) : Prop where
  nonempty : digits ≠ []
  isDigit : ∀ c ∈ digits, c.isDigit

/-- Digits and nothing else make up a numeral, as long as there are any. -/
theorem numeral_of_all {digits : List Char} (nonempty : digits ≠ [])
    (allDigits : digits.all Char.isDigit) : Numeral digits :=
  ⟨nonempty, List.all_eq_true.mp allDigits⟩

/-- Whether a text begins with a digit. -/
def startsDigit (text : List Char) : Bool :=
  text.head?.any Char.isDigit

@[simp] theorem startsDigit_nil : startsDigit [] = false := rfl

@[simp] theorem startsDigit_cons (c : Char) (rest : List Char) :
    startsDigit (c :: rest) = c.isDigit := rfl

/-- A text does not begin with a digit when its first character, if any, is none. -/
theorem startsDigit_eq_false_iff {text : List Char} :
    startsDigit text = false ↔ ∀ c ∈ text.head?, c.isDigit = false := by
  cases text with
  | nil => simp
  | cons c rest => simp

/-- Behind all the digits in front of it, a text does not begin with one. -/
theorem startsDigit_dropWhile (text : List Char) :
    startsDigit (text.dropWhile Char.isDigit) = false := by
  unfold startsDigit
  have stopped := List.head?_dropWhile_not Char.isDigit text
  cases first : (text.dropWhile Char.isDigit).head? with
  | none => rfl
  | some c => simpa [first] using stopped

/-- A text that does not begin with a digit has no digits in front to take. -/
theorem takeWhile_of_not_startsDigit {text : List Char} (plain : startsDigit text = false) :
    text.takeWhile Char.isDigit = [] ∧ text.dropWhile Char.isDigit = text := by
  cases text with
  | nil => exact ⟨rfl, rfl⟩
  | cons c rest =>
      have other : ¬ c.isDigit := by simpa using plain
      exact ⟨List.takeWhile_cons_of_neg other, List.dropWhile_cons_of_neg other⟩

/-- A numeral begins with a digit, whatever follows it. -/
theorem startsDigit_append {digits : List Char} (numeral : Numeral digits) (rest : List Char) :
    startsDigit (digits ++ rest) = true := by
  cases digits with
  | nil => exact absurd rfl numeral.nonempty
  | cons c digits => exact numeral.isDigit c List.mem_cons_self

/-- No number stands where no digit does. -/
theorem number?_of_not_startsDigit {text : List Char} (plain : startsDigit text = false) :
    number? text = none := by
  unfold number?
  rw [(takeWhile_of_not_startsDigit plain).1]
  rfl

/-- **A numeral is found as a whole** when no digit follows it. -/
theorem number?_append {digits rest : List Char} (numeral : Numeral digits)
    (stops : startsDigit rest = false) : number? (digits ++ rest) = some (digits, rest) := by
  obtain ⟨none_taken, none_dropped⟩ := takeWhile_of_not_startsDigit stops
  have taken : (digits ++ rest).takeWhile Char.isDigit = digits := by
    rw [List.takeWhile_append_of_pos numeral.isDigit, none_taken, List.append_nil]
  have dropped : (digits ++ rest).dropWhile Char.isDigit = rest := by
    rw [List.dropWhile_append_of_pos numeral.isDigit, none_dropped]
  unfold number?
  rw [taken, dropped, if_neg (by simpa using numeral.nonempty)]

/-- Reading a number takes the longest numeral at the start of a text, and nothing else. -/
theorem number?_eq_some_iff {text digits rest : List Char} :
    number? text = some (digits, rest) ↔
      text = digits ++ rest ∧ Numeral digits ∧ startsDigit rest = false := by
  constructor
  · intro found
    obtain ⟨whole, nonempty⟩ := number?_eq_some found
    refine ⟨whole, numeral_of_all nonempty (isDigit_of_number? found), ?_⟩
    unfold number? at found
    split at found
    · contradiction
    · rw [← (Prod.mk.inj (Option.some.inj found)).2]
      exact startsDigit_dropWhile text
  · rintro ⟨rfl, numeral, stops⟩
    exact number?_append numeral stops

/-- A number is written as a numeral. -/
theorem numeral_toDigits (n : Nat) : Numeral (Nat.toDigits 10 n) :=
  ⟨Nat.toDigits_ne_nil, fun _ member => Nat.isDigit_of_mem_toDigits (by decide) (by decide) member⟩

/-- The numeral of a number stands for this number. -/
@[simp] theorem value_toDigits (n : Nat) : value (Nat.toDigits 10 n) = n :=
  Nat.ofDigitChars_ten_toDigits

/-- An integer is written as a minus, if it is negative, and the numeral of its magnitude. -/
theorem toList_toString (n : Int) :
    (toString n).toList = (if n < 0 then ['-'] else []) ++ Nat.toDigits 10 n.natAbs := by
  rw [Int.toString_eq_repr, Int.repr_eq_if]
  by_cases negative : n < 0
  · have magnitude : (-n).toNat = n.natAbs := by omega
    rw [if_pos negative, if_neg (by omega), magnitude, String.toList_append, Nat.toList_repr]
    rfl
  · have magnitude : n.toNat = n.natAbs := by omega
    rw [if_neg negative, if_pos (by omega), magnitude, Nat.toList_repr]
    rfl

end DiceWords.Text
