import DiceWords.Proofs.Text.Plain
import DiceWords.Proofs.Text.Utf8

/-! # Cutting a text at a position

A position in a text is a number of bytes. A text can be cut only where a character ends, and then
the first part is as long as the position says (`cut?_eq_some_iff`, `isSome_cut?_iff`). Behind plain
characters, which are one byte each, it can always be cut (`cut?_length_of_plain`). -/

namespace DiceWords.Text

/-- What stands between two positions, if the text can be cut at both. -/
def slice? (start stop : Nat) (text : List Char) : Option (List Char) :=
  (cut? stop text).bind fun parts => (cut? start parts.1).map Prod.snd

/-! ## Sizes -/

/-- The parts of a text share its bytes. -/
theorem byteSize_append (first second : List Char) :
    byteSize (first ++ second) = byteSize first + byteSize second := by
  induction first with
  | nil => exact (Nat.zero_add _).symm
  | cons c first ih => rw [List.cons_append, byteSize, byteSize, ih, Nat.add_assoc]

/-- Only the empty text takes no bytes. -/
theorem byteSize_eq_zero_iff {text : List Char} : byteSize text = 0 ↔ text = [] := by
  cases text with
  | nil => exact iff_of_true rfl rfl
  | cons c rest =>
      obtain ⟨n, size, -⟩ := exists_byteSize_cons c rest
      refine iff_of_false ?_ (List.cons_ne_nil c rest)
      rw [size]
      exact Nat.succ_ne_zero n

/-- The bytes of a string are those of its characters. -/
theorem byteSize_toList (text : String) : byteSize text.toList = text.utf8ByteSize := by
  conv_rhs => rw [← String.ofList_toList (s := text)]
  induction text.toList with
  | nil => rfl
  | cons c rest ih =>
      rw [String.ofList_cons, String.utf8ByteSize_append, String.utf8ByteSize_singleton, byteSize, ih]

/-- Plain text has as many bytes as characters. -/
theorem byteSize_of_plain {text : List Char} (plain : ∀ c ∈ text, c ∈ plainChars) :
    byteSize text = text.length := by
  rw [← utf8ByteSize_ofList_of_plain plain, ← byteSize_toList, String.toList_ofList]

/-- A text takes as many bytes as its encoding has. -/
theorem length_utf8 (text : List Char) : (utf8 text).length = byteSize text := by
  induction text with
  | nil => rfl
  | cons c rest ih =>
      rw [utf8_cons, List.length_append, String.length_utf8EncodeChar, ih, byteSize]

/-- Plain text is ASCII in each of its bytes. -/
theorem toNat_lt_of_mem_utf8 {text : List Char} (plain : ∀ c ∈ text, c ∈ plainChars) :
    ∀ byte ∈ utf8 text, byte.toNat < 128 := by
  have ascii : ∀ c ∈ plainChars,
      (String.utf8EncodeChar c).all (fun byte => decide (byte.toNat < 128)) = true :=
    forall_mem_of_all (by decide)
  intro byte member
  obtain ⟨c, listed, encoded⟩ := List.mem_flatMap.mp member
  exact of_decide_eq_true (List.all_eq_true.mp (ascii c (plain c listed)) byte encoded)

/-! ## Where a text can be cut -/

/-- A text can be cut between its parts. -/
theorem cut?_byteSize_append (first second : List Char) :
    cut? (byteSize first) (first ++ second) = some (first, second) := by
  induction first with
  | nil => cases second <;> rfl
  | cons c first ih =>
      obtain ⟨n, size, fits, remaining⟩ := exists_byteSize_cons c first
      rw [size, List.cons_append, cut?, if_pos fits, remaining, ih]
      rfl

/-- What is cut makes up the text, and the first part is as long as it was asked for. -/
theorem eq_append_of_cut? {n : Nat} {text first second : List Char}
    (found : cut? n text = some (first, second)) : text = first ++ second ∧ byteSize first = n := by
  fun_induction cut? n text generalizing first with
  | case1 text =>
      obtain ⟨rfl, rfl⟩ := Prod.mk.inj (Option.some.inj found)
      exact ⟨rfl, rfl⟩
  | case2 => exact nomatch found
  | case3 n c rest fits ih =>
      obtain ⟨⟨inFront, behind⟩, cut, same⟩ := Option.map_eq_some_iff.mp found
      obtain ⟨rfl, rfl⟩ := Prod.mk.inj same
      obtain ⟨rfl, size⟩ := ih cut
      refine ⟨rfl, ?_⟩
      rw [byteSize, size]
      omega
  | case4 => exact nomatch found

/-- **A text is cut where its first part ends**, and nowhere else. -/
theorem cut?_eq_some_iff {n : Nat} {text first second : List Char} :
    cut? n text = some (first, second) ↔ text = first ++ second ∧ byteSize first = n := by
  refine ⟨eq_append_of_cut?, ?_⟩
  rintro ⟨rfl, rfl⟩
  exact cut?_byteSize_append first second

/-- **A slice is what stands between two positions**, and there is one only where characters end. -/
theorem slice?_eq_some_iff {start stop : Nat} {text part : List Char} :
    slice? start stop text = some part ↔
      ∃ before after, text = before ++ part ++ after ∧ byteSize before = start ∧
        byteSize (before ++ part) = stop := by
  unfold slice?
  constructor
  · intro found
    obtain ⟨⟨upTo, after⟩, cut, found⟩ := Option.bind_eq_some_iff.mp found
    obtain ⟨⟨before, rest⟩, cutAgain, rfl⟩ := Option.map_eq_some_iff.mp found
    obtain ⟨rfl, size⟩ := cut?_eq_some_iff.mp cut
    obtain ⟨rfl, sizeBefore⟩ := cut?_eq_some_iff.mp cutAgain
    exact ⟨before, after, rfl, sizeBefore, size⟩
  · rintro ⟨before, after, rfl, rfl, rfl⟩
    rw [cut?_byteSize_append, Option.bind_some, cut?_byteSize_append]
    rfl

/-- Where a text can be cut is where its strings can be. -/
theorem isSome_cut?_iff {n : Nat} {text : String} :
    (cut? n text.toList).isSome ↔ String.Pos.Raw.IsValid text ⟨n⟩ := by
  rw [String.Pos.Raw.isValid_iff_exists_append, Option.isSome_iff_exists]
  constructor
  · rintro ⟨⟨first, second⟩, cut⟩
    obtain ⟨whole, rfl⟩ := cut?_eq_some_iff.mp cut
    refine ⟨String.ofList first, String.ofList second, ?_, ?_⟩
    · rw [← String.ofList_append, ← whole, String.ofList_toList]
    · rw [String.rawEndPos, ← byteSize_toList, String.toList_ofList]
  · rintro ⟨first, second, rfl, same⟩
    have size : n = first.utf8ByteSize := congrArg String.Pos.Raw.byteIdx same
    refine ⟨(first.toList, second.toList), cut?_eq_some_iff.mpr ⟨String.toList_append, ?_⟩⟩
    rw [byteSize_toList, size]

/-- Behind plain text, positions count characters. -/
theorem cut?_length_of_plain {first : List Char} (plain : ∀ c ∈ first, c ∈ plainChars)
    (second : List Char) : cut? first.length (first ++ second) = some (first, second) :=
  cut?_eq_some_iff.mpr ⟨rfl, byteSize_of_plain plain⟩

end DiceWords.Text
