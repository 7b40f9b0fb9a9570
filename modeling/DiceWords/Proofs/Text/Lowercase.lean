import DiceWords.Proofs.Text.Plain
import Mathlib.Data.List.TakeWhile

/-! # Normalising a text part by part

A character that is no letter and is not passed over in the search for one cuts a text in two: what
is in front of it and what is behind it are lowercased each on its own (`lowercase_append_cons`). A
character that is not blank cuts it for trimming (`trim_append_cons`). Blanks stay as they are, so a
text with a blank at its start keeps it (`trimStart_eq_self_of_lowercase`). -/

namespace DiceWords.Text

/-! ## Cutting at a character -/

/-- A character at which a search stops. -/
theorem dropWhile_append_cons {p : Char → Bool} {c : Char} (stops : p c = false)
    (first second : List Char) :
    (first ++ c :: second).dropWhile p = first.dropWhile p ++ c :: second := by
  induction first with
  | nil => exact List.dropWhile_cons_of_neg (by simp [stops])
  | cons d first ih =>
      rw [List.cons_append]
      by_cases goes : p d
      · rw [List.dropWhile_cons_of_pos goes, List.dropWhile_cons_of_pos goes, ih]
      · rw [List.dropWhile_cons_of_neg goes, List.dropWhile_cons_of_neg goes, List.cons_append]

section

variable {c : Char} (solid : isBlank c = false) (first second : List Char)

include solid

/-- Trimming from the left stops at a character that is not blank. -/
theorem trimStart_append_cons : trimStart (first ++ c :: second) = trimStart first ++ c :: second :=
  dropWhile_append_cons solid first second

/-- Trimming from the right stops at a character that is not blank. -/
theorem trimEnd_append_cons : trimEnd (first ++ c :: second) = first ++ c :: trimEnd second := by
  have backwards : (first ++ c :: second).reverse = second.reverse ++ c :: first.reverse := by
    rw [List.reverse_append, List.reverse_cons, List.append_assoc, List.singleton_append]
  rw [trimEnd, backwards, dropWhile_append_cons solid, List.reverse_append, List.reverse_cons,
    List.reverse_reverse, List.append_assoc, List.singleton_append, trimEnd]

/-- Trimming does not reach past a character that is not blank. -/
theorem trim_append_cons : trim (first ++ c :: second) = trimStart first ++ c :: trimEnd second := by
  rw [trim, trimStart_append_cons solid, trimEnd_append_cons solid]

end

/-- It does not matter at which end trimming begins. -/
theorem trim_eq_trimStart_trimEnd (text : List Char) : trim text = trimStart (trimEnd text) := by
  by_cases blank : ∀ c ∈ text, isBlank c = true
  · have start : trimStart text = [] := List.dropWhile_eq_nil_iff.mpr blank
    have backwards : text.reverse.dropWhile isBlank = [] :=
      List.dropWhile_eq_nil_iff.mpr fun c member => blank c (List.mem_reverse.mp member)
    rw [trim, start, trimEnd, trimEnd, backwards]
    rfl
  · obtain ⟨c, blank⟩ := not_forall.mp blank
    obtain ⟨member, solid⟩ := Classical.not_imp.mp blank
    have solid : isBlank c = false := Bool.eq_false_iff.mpr solid
    obtain ⟨first, second, rfl⟩ := List.append_of_mem member
    rw [trim_append_cons solid, trimEnd_append_cons solid, trimStart_append_cons solid]

/-- A character that separates letters: it has no case, and it is not passed over. -/
structure Separates (c : Char) : Prop where
  caseless : isCased c = false
  seen : isCaseIgnorable c = false
  fixed : c ≠ 'Σ' ∧ lower c = [c]

/-- What stands behind a character that separates does not tell whether a text begins with a letter
that has case. -/
theorem Separates.startsCased_append {c : Char} (separates : Separates c)
    (first second : List Char) : startsCased (first ++ c :: second) = startsCased first := by
  unfold startsCased
  rw [dropWhile_append_cons separates.seen]
  cases first.dropWhile isCaseIgnorable with
  | nil => simp [separates.caseless]
  | cons d rest => rfl

/-- **Lowercase is taken piece by piece** between characters that separate. -/
theorem Separates.lowercaseAfter_append_cons {c : Char} (separates : Separates c)
    (afterCased : Bool) (first second : List Char) :
    lowercaseAfter afterCased (first ++ c :: second) =
      lowercaseAfter afterCased first ++ c :: lowercase second := by
  induction first generalizing afterCased with
  | nil =>
      obtain ⟨noSigma, same⟩ := separates.fixed
      change lowercaseAfter afterCased (c :: second) = c :: lowercase second
      rw [lowercaseAfter, if_neg noSigma, same, separates.seen, separates.caseless]
      rfl
  | cons d first ih =>
      rw [List.cons_append, lowercaseAfter, lowercaseAfter, separates.startsCased_append, ih,
        List.append_assoc]

/-- **A separator cuts a text for lowercasing.** -/
theorem Separates.lowercase_append_cons {c : Char} (separates : Separates c)
    (first second : List Char) :
    lowercase (first ++ c :: second) = lowercase first ++ c :: lowercase second :=
  separates.lowercaseAfter_append_cons false first second

/-- The `#` behind a repeat count separates. -/
theorem separates_hash : Separates '#' where
  caseless := by decide +kernel
  seen := by decide +kernel
  fixed := lower_of_mem_plainChars '#' (by decide)

/-! ## Blanks -/

/-- The blank characters. -/
def blanks : List Char :=
  (List.range' 0x09 5 ++ [0x20, 0x85, 0xA0, 0x1680] ++ List.range' 0x2000 11 ++
    [0x2028, 0x2029, 0x202F, 0x205F, 0x3000]).map Char.ofNat

/-- The blanks are listed completely. -/
theorem mem_blanks_of_isBlank {c : Char} (blank : isBlank c = true) : c ∈ blanks := by
  rw [← Char.ofNat_toNat c]
  apply List.mem_map_of_mem
  simp only [isBlank, Bool.or_eq_true, Bool.and_eq_true, decide_eq_true_eq, beq_iff_eq] at blank
  simp only [List.mem_append, List.mem_range'_1, List.mem_cons, List.not_mem_nil, or_false]
  omega

/-- A blank is its own lowercase form. -/
theorem lower_of_isBlank {c : Char} (blank : isBlank c = true) : c ≠ 'Σ' ∧ lower c = [c] := by
  have fixed : ∀ c ∈ blanks, c ≠ 'Σ' ∧ lower c = [c] := forall_mem_of_all (by decide +kernel)
  exact fixed c (mem_blanks_of_isBlank blank)

/-- A text that has no blank in lowercase does not begin with one. -/
theorem trimStart_eq_self_of_lowercase {text : List Char}
    (solid : ∀ c ∈ lowercase text, isBlank c = false) : trimStart text = text := by
  cases text with
  | nil => rfl
  | cons c rest =>
      by_cases blank : isBlank c
      · obtain ⟨noSigma, same⟩ := lower_of_isBlank blank
        have kept : c ∈ lowercase (c :: rest) := by
          rw [lowercase, lowercaseAfter, if_neg noSigma, same]
          exact List.mem_cons_self
        rw [solid c kept] at blank
        exact absurd blank (by decide)
      · exact List.dropWhile_cons_of_neg blank

end DiceWords.Text
