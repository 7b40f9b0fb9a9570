import DiceWords.Proofs.Expression.Sources

/-! # Reading what is printed

An outline says what an expression asks for, without the text it is read from. It is printed with
no leading zeros, and what is printed is read as the same expression again
(`Expression.parse_text`): the sign of a modifier and the sign in front of the next term are told
apart by what follows their digits. -/

namespace DiceWords

open Text (Numeral value numeral_toDigits value_toDigits)

namespace Spec

/-- The numbers of a specification are in range. A modifier may be any total but the smallest. -/
structure Fits (options : Options) (spec : Spec) : Prop where
  amount : 1 ≤ spec.amount ∧ spec.amount ≤ maxAmount
  singleDigit : options.singleDigit → spec.amount ≤ 9
  keep : ∀ keep ∈ spec.keep, 1 ≤ keep.count ∧ keep.count ≤ spec.amount
  modifier : ∀ modifier ∈ spec.modifier, minTotal < modifier ∧ modifier ≤ maxTotal

/-- The sign a modifier is printed with; zero has a plus. -/
def modifierSign (modifier : Int) : Sign :=
  if modifier < 0 then .minus else .plus

/-- The clauses that a specification is printed with. -/
def clauses (spec : Spec) : Clauses where
  repeats := none
  amount := Nat.toDigits 10 spec.amount
  die := spec.die
  keep := spec.keep.map fun keep => (keep.side, Nat.toDigits 10 keep.count)
  modifier := spec.modifier.map fun modifier =>
    (modifierSign modifier, Nat.toDigits 10 modifier.natAbs)

/-- The term that is printed for a specification. -/
def term (spec : Spec) : Term where
  repeats := none
  spec := spec
  source := spec.text
  length := spec.text.utf8ByteSize

/-- The sign and the magnitude of a modifier make it up. -/
theorem number_modifierSign (modifier : Int) :
    (modifierSign modifier).number modifier.natAbs = modifier := by
  unfold modifierSign
  split <;> simp only [Sign.number] <;> omega

/-- A modifier is printed as its sign and its magnitude. -/
theorem toList_modifierText (modifier : Int) :
    (modifierText modifier).toList =
      (modifierSign modifier).char :: Nat.toDigits 10 modifier.natAbs := by
  unfold modifierText modifierSign
  by_cases negative : modifier < 0
  · rw [if_pos negative, if_pos negative, Text.toList_toString, if_pos negative]
    rfl
  · rw [if_neg negative, if_neg negative, String.toList_append, Text.toList_toString,
      if_neg negative]
    rfl

/-- A specification is printed as a single term. -/
theorem isTerm_clauses (spec : Spec) : spec.clauses.IsTerm where
  bare := rfl
  repeats := by simp [clauses]
  amount := numeral_toDigits spec.amount
  keep := Option.forall_mem_map.mpr fun keep _ => numeral_toDigits keep.count
  modifier := Option.forall_mem_map.mpr fun modifier _ => numeral_toDigits modifier.natAbs

/-- The clauses of a specification are written as its text. -/
theorem sourceChars_clauses (spec : Spec) : spec.clauses.sourceChars = spec.text.toList := by
  obtain ⟨amount, die, keep, modifier⟩ := spec
  have letter : die.letter.toString.toList = [die.letter] := by cases die <;> rfl
  have keepPart : Clauses.keepChars (keep.map fun keep => (keep.side, Nat.toDigits 10 keep.count)) =
      ((keep.map Keep.text).getD "").toList := by
    cases keep <;> simp [Clauses.keepChars, Keep.text]
  have modifierPart : Clauses.modifierChars (modifier.map fun modifier =>
      (modifierSign modifier, Nat.toDigits 10 modifier.natAbs)) =
      ((modifier.map modifierText).getD "").toList := by
    cases modifier <;> simp [Clauses.modifierChars, toList_modifierText]
  simp only [clauses, Clauses.sourceChars, text, String.toList_append, keepPart, modifierPart,
    letter, Nat.toString_eq_repr, Nat.toList_repr, List.append_assoc, List.cons_append,
    List.nil_append]

/-- The clauses of a specification stand for it. -/
theorem spec_clauses (spec : Spec) : spec.clauses.spec = spec := by
  obtain ⟨amount, die, keep, modifier⟩ := spec
  have keepPart : keep.map (fun keep => ({ side := keep.side, count := keep.count } : Keep)) =
      keep := Option.map_id'
  have modifierPart : modifier.map (fun m => (modifierSign m).number m.natAbs) = modifier := by
    simp only [number_modifierSign, Option.map_id']
  simp only [clauses, Clauses.spec, value_toDigits, Option.map_map, Function.comp_def, keepPart,
    modifierPart]

/-- The clauses of a specification that fits have their numbers in range. -/
theorem allowed_clauses {options : Options} {spec : Spec} (fits : spec.Fits options) :
    spec.clauses.Allowed options where
  singleDigit single := by
    have small : spec.amount < 10 := Nat.lt_succ_of_le (fits.singleDigit single)
    simp [clauses, Nat.toDigits_of_lt_base small]
  amount := by simpa [clauses] using fits.amount
  keep := Option.forall_mem_map.mpr fun keep written => by
    simpa [clauses] using fits.keep keep written
  modifier := Option.forall_mem_map.mpr fun modifier written => by
    have range := fits.modifier modifier written
    unfold minTotal maxTotal at range
    rw [value_toDigits, maxTotal]
    omega

/-- The clauses stand for the term that is printed. -/
theorem term_clauses (spec : Spec) : spec.clauses.term = spec.term := by
  have source : spec.clauses.term.source = spec.text := by
    rw [Clauses.term, sourceChars_clauses, String.ofList_toList]
  exact (Term.mk.injEq ..).mpr ⟨rfl, spec.spec_clauses, source,
    (isTerm_clauses spec).length_term.trans (congrArg _ source)⟩

end Spec

/-- What an expression asks for, whatever it is read from. -/
inductive Outline where
  | batch (times : Nat) (spec : Spec)
  /-- Terms behind the first one have a sign; the first one counts as it is. -/
  | chain (first : Spec) (rest : List (Sign × Spec))
deriving DecidableEq, Repr

namespace Outline

/-- The outline as it is printed, e.g. `2f+3-1r` or `3#4tkh2`. -/
def text : Outline → String
  | batch times spec => toString times ++ "#" ++ spec.text
  | chain first rest =>
    first.text ++ String.join (rest.map fun part => part.1.text ++ part.2.text)

/-- The numbers of the outline are in range, and its terms are not too many. -/
def Fits (options : Options) : Outline → Prop
  | batch times spec => (1 ≤ times ∧ times ≤ maxRepeats) ∧ spec.Fits options
  | chain first rest =>
    rest.length + 1 ≤ max 1 options.maxTerms ∧ first.Fits options ∧
      ∀ part ∈ rest, part.2.Fits options

/-- The expression with this outline whose terms are read from what is printed. -/
def expression : Outline → Expression
  | batch times spec => .batch times { spec.term with
      repeats := some times
      length := (batch times spec).text.utf8ByteSize }
  | chain first rest =>
    .chain ({ sign := .plus, term := first.term } ::
      rest.map fun part => { sign := part.1, term := part.2.term })

/-- The form that the outline is printed in. -/
def form : Outline → Form
  | batch times spec => .batch (Nat.toDigits 10 times) spec.clauses
  | chain first rest => .chain first.clauses (rest.map fun part => (part.1, part.2.clauses))

/-- **An outline is printed as a word of its form.** -/
theorem derives_form (outline : Outline) : outline.form.Derives outline.text := by
  cases outline with
  | batch times spec =>
      refine ⟨⟨numeral_toDigits times, spec.isTerm_clauses⟩, ?_⟩
      simp [form, Form.chars, text, spec.sourceChars_clauses]
  | chain first rest =>
      refine ⟨⟨first.isTerm_clauses, List.forall_mem_map.mpr fun part _ =>
        part.2.isTerm_clauses⟩, ?_⟩
      simp [form, Form.chars, Form.signedChars, text, Spec.sourceChars_clauses,
        String.toList_join, List.flatMap_map]

/-- The form of an outline that fits has its numbers in range. -/
theorem allowed_form {options : Options} {outline : Outline} (fits : outline.Fits options) :
    outline.form.Allowed options := by
  cases outline with
  | batch times spec =>
      obtain ⟨timesFit, specFits⟩ := fits
      exact ⟨by simpa using timesFit, Spec.allowed_clauses specFits⟩
  | chain first rest =>
      obtain ⟨few, firstFits, restFits⟩ := fits
      exact ⟨by simpa using few, Spec.allowed_clauses firstFits,
        List.forall_mem_map.mpr fun part listed => Spec.allowed_clauses (restFits part listed)⟩

/-- The form of an outline stands for its expression. -/
theorem expression_form (outline : Outline) : outline.form.expression = outline.expression := by
  cases outline with
  | batch times spec =>
      have size := (derives_form (.batch times spec)).utf8ByteSize_eq
      rw [form, Form.chars, ← Clauses.chars_repeated] at size
      have counted : some (value (Nat.toDigits 10 times)) = some times := by simp
      have read : (spec.clauses.repeated (Nat.toDigits 10 times)).term = { spec.term with
          repeats := some times
          length := (batch times spec).text.utf8ByteSize } :=
        (Term.mk.injEq ..).mpr
          ⟨counted, spec.spec_clauses, congrArg Term.source spec.term_clauses, size.symm⟩
      simp only [form, Form.expression, expression, read, value_toDigits]
  | chain first rest =>
      simp [form, Form.expression, expression, Form.link, Spec.term_clauses]

end Outline

/-- **Reading undoes printing.** An outline with its numbers in range and not too many terms is
printed as a word that is read as an expression with this outline; the source of each term is its
specification as it is printed. -/
theorem Expression.parse_text {options : Options} {outline : Outline}
    (fits : outline.Fits options) :
    parse options outline.text = .ok (some outline.expression) := by
  rw [← outline.expression_form]
  exact parse_of_derives outline.derives_form (Outline.allowed_form fits)

/-- A modifier and two signed terms, next to each other. -/
theorem Expression.parse_text_three_terms :
    let outline : Outline := .chain ⟨2, .f, none, some 3⟩
      [(.minus, ⟨1, .r, none, none⟩), (.plus, ⟨4, .t, some ⟨.high, 2⟩, none⟩)]
    outline.Fits {} ∧ outline.text = "2f+3-1r+4tkh2" ∧
      parse {} "2f+3-1r+4tkh2" = .ok (some outline.expression) := by
  intro outline
  have fits : outline.Fits {} := by
    refine ⟨by decide, ?_, List.forall_mem_cons.mpr ⟨?_, List.forall_mem_singleton.mpr ?_⟩⟩ <;>
      constructor <;> simp [maxAmount, minTotal, maxTotal]
  have printed : outline.text = "2f+3-1r+4tkh2" := by decide
  exact ⟨fits, printed, printed ▸ parse_text fits⟩

end DiceWords
