/-! # Texts line by line

A text comes as bytes. A line of it reaches up to a line feed, which belongs to it, or up to the end
of the bytes. A line is a text only if its bytes are UTF-8. -/

namespace DiceWords.Text

/-- The bytes line by line, each line with its end. -/
def byteLines : List UInt8 → List (List UInt8)
  | [] => []
  | byte :: rest =>
    if byte = 10 then [byte] :: byteLines rest
    else
      match byteLines rest with
      | [] => [[byte]]
      | line :: lines => (byte :: line) :: lines

/-- A line without its end: a line feed, and a carriage return in front of it. -/
def withoutEnd (line : String) : String :=
  match line.toList.reverse with
  | '\n' :: '\r' :: rest => String.ofList rest.reverse
  | '\n' :: rest => String.ofList rest.reverse
  | _ => line

/-- The text of a line without its end, if it is UTF-8. -/
def lineText? (bytes : List UInt8) : Option String :=
  (String.fromUTF8? ⟨bytes.toArray⟩).map withoutEnd

/-- A line feed ends its line. -/
theorem byteLines_cons_of_feed (rest : List UInt8) :
    byteLines (10 :: rest) = [10] :: byteLines rest :=
  rfl

/-- Any other byte belongs to the line that follows it. -/
theorem byteLines_cons_of_ne {byte : UInt8} (inside : byte ≠ 10) (rest : List UInt8) :
    byteLines (byte :: rest) =
      (byte :: (byteLines rest).headD []) :: (byteLines rest).tail := by
  rw [byteLines, if_neg inside]
  cases byteLines rest <;> rfl

/-- The bytes of all lines are the bytes. -/
theorem flatten_byteLines (bytes : List UInt8) : (byteLines bytes).flatten = bytes := by
  induction bytes with
  | nil => rfl
  | cons byte rest ih =>
    by_cases feed : byte = 10
    · rw [feed, byteLines_cons_of_feed, List.flatten_cons, ih]
      rfl
    · have onward : (byteLines rest).headD [] ++ (byteLines rest).tail.flatten =
          (byteLines rest).flatten := by
        cases byteLines rest <;> rfl
      rw [byteLines_cons_of_ne feed, List.flatten_cons, List.cons_append, onward, ih]

/-- No line is empty. -/
theorem ne_nil_of_mem_byteLines {bytes line : List UInt8} (member : line ∈ byteLines bytes) :
    line ≠ [] := by
  induction bytes with
  | nil => contradiction
  | cons byte rest ih =>
    by_cases feed : byte = 10
    · rw [feed, byteLines_cons_of_feed] at member
      rcases List.mem_cons.mp member with rfl | behind
      · exact List.cons_ne_nil _ _
      · exact ih behind
    · rw [byteLines_cons_of_ne feed] at member
      rcases List.mem_cons.mp member with rfl | behind
      · exact List.cons_ne_nil _ _
      · exact ih (List.mem_of_mem_tail behind)

end DiceWords.Text
