import DiceWords.Terminal.Archive
import DiceWords.Terminal.Backspace
import DiceWords.Terminal.Editor

/-! # An editor for input that nobody types

Where the input does not come from a keyboard, it is taken line by line as it is, but for
backspaces, and no prompt is shown. -/

namespace DiceWords.Terminal

/-- What comes of asking for the first of some lines. -/
def askLines (archive : Archive) : List (List UInt8) → Asked Archive
  | [] => .left .ended
  | bytes :: rest =>
    match Text.lineText? bytes with
    | none => .left (.failed Archive.notText)
    | some line =>
      match withoutBackspaces? line with
      | none => .crashed
      | some text => .line text archive rest.flatten

/-- The editor that takes the input line by line. -/
def lineEditor : Editor Archive where
  load := Archive.load
  ask archive _ input := askLines archive (Text.byteLines input)
  add archive line := .ok (archive.add line)
  save := Archive.save
  length_rest_lt := by
    intro archive next prompt input rest text asked
    rcases lines : Text.byteLines input with _ | ⟨bytes, others⟩
    · rw [lines] at asked
      exact nomatch asked
    · rw [lines, askLines] at asked
      split at asked
      · exact nomatch asked
      · split at asked
        · exact nomatch asked
        · cases asked
          have whole := Text.flatten_byteLines input
          have nonempty := Text.ne_nil_of_mem_byteLines (lines ▸ List.mem_cons_self)
          rw [← whole, lines, List.flatten_cons, List.length_append]
          exact Nat.lt_add_of_pos_left (List.length_pos_iff.mpr nonempty)

end DiceWords.Terminal
