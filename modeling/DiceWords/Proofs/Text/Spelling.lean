import DiceWords.Proofs.Text.Lowercase
import Mathlib.Data.List.DropRight
import Mathlib.Data.List.Forall2

/-! # Which texts are normalised to a plain text

Many characters beyond ASCII have a lowercase form, and the form of one of them hangs on its
neighbours. Still only one of them becomes a character that expressions are written with: the Kelvin
sign becomes `k` (`eq_kelvin_of_mem_lower`). So the texts that trimming and lowercasing turn into a
plain text are that text itself with capitals in it, Kelvin signs for some `k`, and blanks around it
(`lowercase_trim_eq_iff`). -/

namespace DiceWords.Text

/-- What may be written for a character: the character, its capital, or a Kelvin sign for a `k`. -/
inductive SpeltAs : Char → Char → Prop
  | itself (c : Char) : SpeltAs c c
  | capital (c : Char) : SpeltAs c c.toUpper
  | kelvin : SpeltAs 'k' '\u212A'

/-- A text is a word in some spelling, with blanks around it. -/
def Spells (text word : List Char) : Prop :=
  ∃ before spelt after, text = before ++ spelt ++ after ∧
    (∀ c ∈ before, isBlank c = true) ∧ (∀ c ∈ after, isBlank c = true) ∧
      List.Forall₂ SpeltAs word spelt

/-! ## What becomes a plain character -/

/-- Plain characters are ASCII. -/
theorem toNat_lt_of_mem_plainChars : ∀ c ∈ plainChars, c.toNat < 0x80 :=
  forall_mem_of_all (by decide)

theorem lt_of_ofNat_mem_plainChars {n : Nat} (plain : Char.ofNat n ∈ plainChars) : n < 0x80 := by
  by_cases valid : n.isValidChar
  · rw [Char.ofNat, dif_pos valid] at plain
    exact toNat_lt_of_mem_plainChars _ plain
  · rw [Char.ofNat, dif_neg valid] at plain
    exact absurd plain (by decide)

/-- A character of ASCII is its own lowercase form or the capital of it. -/
theorem speltAs_toLower {c : Char} (narrow : c.toNat < 0x80) : SpeltAs c.toLower c := by
  have forms : ∀ n ∈ List.range 0x80,
      (Char.ofNat n).toLower = Char.ofNat n ∨ (Char.ofNat n).toLower.toUpper = Char.ofNat n := by
    decide +kernel
  have form := forms c.toNat (List.mem_range.mpr narrow)
  rw [Char.ofNat_toNat] at form
  rcases form with same | capital
  · rw [same]
    exact .itself c
  · have spelt := SpeltAs.capital c.toLower
    rwa [capital] at spelt

/-- Ranges beyond ASCII are mapped beyond ASCII, but for the Kelvin sign. -/
theorem caseRanges_targets : ∀ range ∈ caseRanges,
    0x80 ≤ range.target ∨ (range.first = 0x212A ∧ range.last = 0x212A) := by
  decide +kernel

/-- **Beyond ASCII only the Kelvin sign becomes a plain character.** -/
theorem eq_kelvin_of_mem_lower {c d : Char} (wide : 0x80 ≤ c.toNat) (member : d ∈ lower c)
    (plain : d ∈ plainChars) : c = '\u212A' := by
  rw [lower, if_neg (Nat.not_lt_of_le wide)] at member
  split at member
  · -- the two characters that the capital I with a dot becomes
    rcases List.mem_pair.mp member with rfl | rfl
    · exact absurd plain (by decide)
    · exact absurd plain (by decide)
  · split at member
    · next range found =>
      obtain rfl := List.mem_singleton.mp member
      have narrow := lt_of_ofNat_mem_plainChars plain
      rcases caseRanges_targets range (List.mem_of_find?_eq_some found) with beyond | ⟨first, last⟩
      · omega
      · have maps := List.find?_some found
        simp only [CaseRange.maps, Bool.and_eq_true, decide_eq_true_eq] at maps
        have kelvin : c.toNat = 0x212A := by omega
        rw [← Char.ofNat_toNat c, kelvin]
    · obtain rfl := List.mem_singleton.mp member
      exact absurd (toNat_lt_of_mem_plainChars d plain) (Nat.not_lt_of_le wide)

/-- The Kelvin sign is a `k` in lowercase. -/
theorem lower_kelvin : lower '\u212A' = ['k'] := by
  decide +kernel

/-- A character with a plain lowercase form is a spelling of it. -/
theorem exists_speltAs_of_lower {c : Char} (plain : ∀ d ∈ lower c, d ∈ plainChars) :
    ∃ d, lower c = [d] ∧ SpeltAs d c := by
  by_cases narrow : c.toNat < 0x80
  · exact ⟨c.toLower, if_pos narrow, speltAs_toLower narrow⟩
  · obtain ⟨d, member⟩ : ∃ d, d ∈ lower c := by
      refine List.exists_mem_of_ne_nil _ ?_
      unfold lower
      split
      · exact List.cons_ne_nil _ _
      · split
        · exact List.cons_ne_nil _ _
        · split <;> exact List.cons_ne_nil _ _
    obtain rfl := eq_kelvin_of_mem_lower (Nat.le_of_not_lt narrow) member (plain d member)
    exact ⟨'k', lower_kelvin, .kelvin⟩

/-- A spelling of a plain character has it as its lowercase form, and it is not blank. -/
theorem SpeltAs.lower_eq {c d : Char} (spelt : SpeltAs c d) (plain : c ∈ plainChars) :
    d ≠ 'Σ' ∧ lower d = [c] ∧ isBlank d = false := by
  cases spelt with
  | itself =>
      obtain ⟨noSigma, same⟩ := lower_of_mem_plainChars c plain
      exact ⟨noSigma, same, isBlank_of_mem_plainChars c plain⟩
  | capital =>
      have capitals : ∀ c ∈ plainChars,
          c.toUpper ≠ 'Σ' ∧ lower c.toUpper = [c] ∧ isBlank c.toUpper = false :=
        forall_mem_of_all (by decide)
      exact capitals c plain
  | kelvin => exact ⟨by decide, lower_kelvin, by decide⟩

/-! ## What becomes a plain text -/

/-- **What becomes plain in lowercase was spelt as it**, character by character. -/
theorem forall₂_of_lowercaseAfter {afterCased : Bool} {text : List Char}
    (plain : ∀ c ∈ lowercaseAfter afterCased text, c ∈ plainChars) :
    List.Forall₂ SpeltAs (lowercaseAfter afterCased text) text := by
  induction text generalizing afterCased with
  | nil => exact .nil
  | cons c rest ih =>
      rw [lowercaseAfter] at plain ⊢
      obtain ⟨first, others⟩ := List.forall_mem_append.mp plain
      -- neither form of sigma is plain
      have noSigma : c ≠ 'Σ' := by
        rintro rfl
        rw [if_pos rfl, List.forall_mem_singleton] at first
        revert first
        split <;> decide
      rw [if_neg noSigma] at first ⊢
      obtain ⟨d, same, spelt⟩ := exists_speltAs_of_lower first
      rw [same, List.singleton_append]
      exact .cons spelt (ih others)

/-- **What is spelt as a plain word becomes this word in lowercase.** -/
theorem lowercase_of_forall₂ {word spelt : List Char} (plain : ∀ c ∈ word, c ∈ plainChars)
    (spells : List.Forall₂ SpeltAs word spelt) : lowercase spelt = word := by
  suffices same : ∀ afterCased, lowercaseAfter afterCased spelt = word from same false
  induction spells with
  | nil => intro afterCased; rfl
  | cons first others ih =>
      intro afterCased
      obtain ⟨plainFirst, plainOthers⟩ := List.forall_mem_cons.mp plain
      obtain ⟨noSigma, same, -⟩ := first.lower_eq plainFirst
      rw [lowercaseAfter, if_neg noSigma, same, ih plainOthers, List.singleton_append]

/-- A plain word is spelt without blanks. -/
theorem solid_of_forall₂ {word spelt : List Char} (plain : ∀ c ∈ word, c ∈ plainChars)
    (spells : List.Forall₂ SpeltAs word spelt) : ∀ c ∈ spelt, isBlank c = false := by
  induction spells with
  | nil => exact List.forall_mem_nil _
  | cons first others ih =>
      obtain ⟨plainFirst, plainOthers⟩ := List.forall_mem_cons.mp plain
      exact List.forall_mem_cons.mpr ⟨(first.lower_eq plainFirst).2.2, ih plainOthers⟩

/-! ## Blanks around a text -/

/-- Trimming takes off blanks and nothing else. -/
theorem exists_padding (text : List Char) :
    ∃ before after, text = before ++ trim text ++ after ∧
      (∀ c ∈ before, isBlank c = true) ∧ ∀ c ∈ after, isBlank c = true := by
  refine ⟨text.takeWhile isBlank, (trimStart text).rtakeWhile isBlank, ?_,
    fun c member => List.mem_takeWhile_imp member, fun c member => List.mem_rtakeWhile_imp member⟩
  change text = text.takeWhile isBlank ++ (trimStart text).rdropWhile isBlank ++
    (trimStart text).rtakeWhile isBlank
  rw [List.append_assoc, List.rdropWhile_append_rtakeWhile, trimStart,
    List.takeWhile_append_dropWhile]

/-- Blanks in front are trimmed. -/
theorem trimStart_append_of_blank {before : List Char} (blank : ∀ c ∈ before, isBlank c = true)
    (text : List Char) : trimStart (before ++ text) = trimStart text :=
  List.dropWhile_append_of_pos blank

/-- Blanks behind are trimmed. -/
theorem trimEnd_append_of_blank {after : List Char} (blank : ∀ c ∈ after, isBlank c = true)
    (text : List Char) : trimEnd (text ++ after) = trimEnd text := by
  rw [trimEnd, List.reverse_append,
    List.dropWhile_append_of_pos fun c member => blank c (List.mem_reverse.mp member), trimEnd]

/-- Blanks around a text are taken off. -/
theorem trim_padded {before after : List Char} (blankBefore : ∀ c ∈ before, isBlank c = true)
    (blankAfter : ∀ c ∈ after, isBlank c = true) (text : List Char) :
    trim (before ++ text ++ after) = trim text := by
  rw [trim_eq_trimStart_trimEnd, trimEnd_append_of_blank blankAfter, ← trim_eq_trimStart_trimEnd,
    trim, trimStart_append_of_blank blankBefore, trim]

/-- **Which texts are normalised to a plain text.** Those that spell it, whatever the letters of all
scripts become in lowercase. -/
theorem lowercase_trim_eq_iff {text word : List Char} (plain : ∀ c ∈ word, c ∈ plainChars) :
    lowercase (trim text) = word ↔ Spells text word := by
  constructor
  · rintro rfl
    obtain ⟨before, after, padded, blankBefore, blankAfter⟩ := exists_padding text
    exact ⟨before, trim text, after, padded, blankBefore, blankAfter,
      forall₂_of_lowercaseAfter plain⟩
  · rintro ⟨before, spelt, after, rfl, blankBefore, blankAfter, spells⟩
    rw [trim_padded blankBefore blankAfter, trim_of_solid (solid_of_forall₂ plain spells)]
    exact lowercase_of_forall₂ plain spells

end DiceWords.Text
