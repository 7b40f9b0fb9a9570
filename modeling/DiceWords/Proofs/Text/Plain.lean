import DiceWords.Text.Blank
import DiceWords.Text.Lowercase

/-! # The characters of dice words

Expressions are written with ten digits and nine more characters. All of them are ASCII, none of
them is blank, and each is its own lowercase form. So a text of such characters takes as many bytes
as it has characters (`utf8ByteSize_ofList_of_plain`), and neither trimming nor lowercasing changes
it (`lowercase_trim_of_plain`). -/

namespace DiceWords.Text

/-- The characters that expressions are written with: digits, the letters of dice and of keep
clauses, the signs and `#`. -/
def plainChars : List Char :=
  ['0', '1', '2', '3', '4', '5', '6', '7', '8', '9', 'f', 'r', 't', 'k', 'h', 'l', '+', '-', '#']

/-- Digits are plain. -/
theorem mem_plainChars_of_isDigit {c : Char} (digit : c.isDigit) : c ∈ plainChars := by
  obtain ⟨low, high⟩ := Char.isDigit_iff_toNat.mp digit
  have bounds : 48 ≤ c.toNat ∧ c.toNat ≤ 57 := ⟨low, high⟩
  have listed : ∀ n ∈ List.range' 48 10, Char.ofNat n ∈ plainChars := by decide
  rw [← Char.ofNat_toNat c]
  exact listed c.toNat (List.mem_range'_1.mpr ⟨bounds.1, by omega⟩)

/-- What holds of each character of a text is checked on the text alone, not on all characters. -/
theorem forall_mem_of_all {p : Char → Prop} [DecidablePred p] {text : List Char}
    (checked : text.all fun c => decide (p c)) : ∀ c ∈ text, p c := by
  simpa using checked

/-- A plain character is one byte. -/
theorem utf8Size_of_mem_plainChars : ∀ c ∈ plainChars, c.utf8Size = 1 :=
  forall_mem_of_all (by decide)

/-- A plain character is not blank, so plain text is one word. -/
theorem isBlank_of_mem_plainChars : ∀ c ∈ plainChars, isBlank c = false :=
  forall_mem_of_all (by decide)

/-- A plain character is in lowercase already. -/
theorem lower_of_mem_plainChars : ∀ c ∈ plainChars, c ≠ 'Σ' ∧ lower c = [c] :=
  forall_mem_of_all (by decide)

/-- Plain text has as many bytes as characters. -/
theorem utf8ByteSize_ofList_of_plain {text : List Char} (plain : ∀ c ∈ text, c ∈ plainChars) :
    (String.ofList text).utf8ByteSize = text.length := by
  induction text with
  | nil => rfl
  | cons c rest ih =>
      obtain ⟨first, others⟩ := List.forall_mem_cons.mp plain
      rw [String.ofList_cons, String.utf8ByteSize_append, String.utf8ByteSize_singleton, ih others,
        utf8Size_of_mem_plainChars c first, List.length_cons]
      omega

/-- There is nothing to trim from a text without blanks. -/
theorem trim_of_solid {text : List Char} (solid : ∀ c ∈ text, isBlank c = false) :
    trim text = text := by
  have kept : ∀ text : List Char, (∀ c ∈ text, isBlank c = false) →
      text.dropWhile isBlank = text := by
    intro text solid
    cases text with
    | nil => rfl
    | cons c rest =>
        have first := solid c List.mem_cons_self
        exact List.dropWhile_cons_of_neg (by simp [first])
  have backwards := kept text.reverse fun c member => solid c (List.mem_reverse.mp member)
  rw [trim, trimStart, kept text solid, trimEnd, backwards, List.reverse_reverse]

/-- A text is its own lowercase form when its characters are; the sigma is left out since its form
hangs on its place. -/
theorem lowercase_of_fixed {text : List Char} (fixed : ∀ c ∈ text, c ≠ 'Σ' ∧ lower c = [c]) :
    lowercase text = text := by
  suffices same : ∀ afterCased, lowercaseAfter afterCased text = text from same false
  induction text with
  | nil => intro afterCased; rfl
  | cons c rest ih =>
      intro afterCased
      obtain ⟨⟨noSigma, same⟩, others⟩ := List.forall_mem_cons.mp fixed
      rw [lowercaseAfter, if_neg noSigma, same, ih others, List.singleton_append]

/-- **Normalising changes no plain text.** -/
theorem lowercase_trim_of_plain {text : List Char} (plain : ∀ c ∈ text, c ∈ plainChars) :
    lowercase (trim text) = text := by
  rw [trim_of_solid fun c member => isBlank_of_mem_plainChars c (plain c member),
    lowercase_of_fixed fun c member => lower_of_mem_plainChars c (plain c member)]

end DiceWords.Text
