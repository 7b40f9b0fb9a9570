import DiceWords.Text.Blank
import Mathlib.Data.List.SplitBy
import Mathlib.Data.List.TakeWhile

/-! # Words and the blanks between them

Runs are cut where a blank meets another character (`words_append`). From this it follows that a
blank always separates: the words of a text with a blank in it are those in front of the blank and
those behind it (`words_append_blank`). -/

namespace DiceWords.Text

/-- Nothing is lost between runs. -/
theorem flatten_runs (text : List Char) : (runs text).flatten = text :=
  List.flatten_splitBy _ text

/-- Words are cut between a blank and a character that is none, so parts that meet there have words
of their own. -/
theorem words_append {first second : List Char}
    (edge : ∀ c ∈ first.getLast?, ∀ d ∈ second.head?, isBlank c ≠ isBlank d) :
    words (String.ofList (first ++ second)) =
      words (String.ofList first) ++ words (String.ofList second) := by
  have split : runs (first ++ second) = runs first ++ runs second := by
    apply List.splitBy_append
    intro c last d next
    exact beq_false_of_ne (edge c last d next)
  simp only [words, String.toList_ofList, split, List.filter_append, List.map_append]

/-- Characters of one kind are one run. -/
theorem runs_eq_singleton {text : List Char} {blank : Bool} (nonempty : text ≠ [])
    (alike : ∀ c ∈ text, isBlank c = blank) : runs text = [text] := by
  apply List.splitBy_of_isChain nonempty
  apply List.Pairwise.isChain
  apply List.pairwise_of_forall_mem_list
  intro c member d member'
  rw [alike c member, alike d member', beq_self_eq_true]

/-- A text without blanks is one word. -/
theorem words_of_solid {text : List Char} (nonempty : text ≠ [])
    (solid : ∀ c ∈ text, isBlank c = false) : words (String.ofList text) = [String.ofList text] := by
  rw [words, String.toList_ofList, runs_eq_singleton nonempty solid]
  cases text with
  | nil => exact absurd rfl nonempty
  | cons c rest =>
      have first := solid c List.mem_cons_self
      simp [isWord, first]

/-- A text of blanks has no words. -/
theorem words_of_blank {text : List Char} (blank : ∀ c ∈ text, isBlank c = true) :
    words (String.ofList text) = [] := by
  rw [words, String.toList_ofList]
  cases text with
  | nil => rfl
  | cons c rest =>
      have first := blank c List.mem_cons_self
      rw [runs_eq_singleton (List.cons_ne_nil c rest) blank]
      simp [isWord, first]

/-- Blanks in front of a text change none of its words. -/
theorem words_dropWhile (text : List Char) :
    words (String.ofList (text.dropWhile isBlank)) = words (String.ofList text) := by
  have blank : ∀ c ∈ text.takeWhile isBlank, isBlank c = true :=
    fun c member => List.mem_takeWhile_imp member
  have edge : ∀ c ∈ (text.takeWhile isBlank).getLast?, ∀ d ∈ (text.dropWhile isBlank).head?,
      isBlank c ≠ isBlank d := by
    intro c last d next
    have solid := List.head?_dropWhile_not isBlank text
    rw [next] at solid
    rw [blank c (List.mem_of_getLast? last), solid]
    decide
  have parts := words_append edge
  rw [List.takeWhile_append_dropWhile, words_of_blank blank, List.nil_append] at parts
  exact parts.symm

/-- A blank in front of a text changes none of its words. -/
theorem words_cons_blank {c : Char} (blank : isBlank c = true) (text : List Char) :
    words (String.ofList (c :: text)) = words (String.ofList text) := by
  rw [← words_dropWhile (c :: text), List.dropWhile_cons_of_pos blank, words_dropWhile]

/-- **Blanks separate words.** -/
theorem words_append_blank {c : Char} (blank : isBlank c = true) (first second : List Char) :
    words (String.ofList (first ++ c :: second)) =
      words (String.ofList first) ++ words (String.ofList second) := by
  induction first using List.reverseRecOn generalizing c second with
  | nil => exact words_cons_blank blank second
  | append_singleton first last ih =>
      cases kind : isBlank last with
      | true =>
          have inFront : words (String.ofList (first ++ [last])) = words (String.ofList first) := by
            rw [ih kind []]
            exact List.append_nil _
          rw [List.append_assoc, List.singleton_append, ih kind, words_cons_blank blank, inFront]
      | false =>
          have edge : ∀ d ∈ (first ++ [last]).getLast?, ∀ e ∈ (c :: second).head?,
              isBlank d ≠ isBlank e := by
            simp [kind, blank]
          rw [words_append edge, words_cons_blank blank]

/-- Blanks in front of a text change none of its words, however many they are. -/
theorem words_append_of_blank {blanks : List Char} (blank : ∀ c ∈ blanks, isBlank c = true)
    (text : List Char) :
    words (String.ofList (blanks ++ text)) = words (String.ofList text) := by
  induction blanks with
  | nil => rfl
  | cons c blanks ih =>
      obtain ⟨first, others⟩ := List.forall_mem_cons.mp blank
      rw [List.cons_append, words_cons_blank first, ih others]

/-- So does a run of blanks, whatever stands in front of it and behind it. -/
theorem words_append_blanks {blanks : String} (nonempty : blanks ≠ "")
    (blank : isAllBlank blanks = true) (first second : String) :
    words (first ++ blanks ++ second) = words first ++ words second := by
  have alike : ∀ c ∈ blanks.toList, isBlank c = true := List.all_eq_true.mp blank
  rcases written : blanks.toList with _ | ⟨c, rest⟩
  · exact absurd (String.toList_eq_nil_iff.mp written) nonempty
  · rw [written] at alike
    obtain ⟨leading, others⟩ := List.forall_mem_cons.mp alike
    have apart := words_append_blank leading first.toList (rest ++ second.toList)
    have whole : first.toList ++ c :: (rest ++ second.toList) =
        (first ++ blanks ++ second).toList := by
      simp only [String.toList_append, written, List.append_assoc, List.cons_append]
    rw [words_append_of_blank others] at apart
    simpa only [whole, String.ofList_toList] using apart

end DiceWords.Text
