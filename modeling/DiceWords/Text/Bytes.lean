/-! # The size of a text in UTF-8 -/

namespace DiceWords.Text

/-- How many bytes a text takes. -/
def byteSize : List Char → Nat
  | [] => 0
  | c :: rest => c.utf8Size + byteSize rest

/-- A text in two parts, of which the first has so many bytes, if a character ends there. -/
def cut? : Nat → List Char → Option (List Char × List Char)
  | 0, text => some ([], text)
  | _ + 1, [] => none
  | n + 1, c :: rest =>
    if c.utf8Size ≤ n + 1 then
      (cut? (n + 1 - c.utf8Size) rest).map fun parts => (c :: parts.1, parts.2)
    else none

/-- The first character of a text takes a byte at least, and its bytes are those in front of the
rest. -/
theorem exists_byteSize_cons (c : Char) (rest : List Char) :
    ∃ n, byteSize (c :: rest) = n + 1 ∧ c.utf8Size ≤ n + 1 ∧
      n + 1 - c.utf8Size = byteSize rest := by
  have positive := c.utf8Size_pos
  refine ⟨c.utf8Size - 1 + byteSize rest, ?_, by omega, by omega⟩
  rw [byteSize]
  omega

end DiceWords.Text
