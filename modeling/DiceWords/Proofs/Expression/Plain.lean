import DiceWords.Proofs.Expression.Reading
import DiceWords.Proofs.Term.Refusal

/-! # Which words are plain

A word has the shape of plain text when it does not begin with a term, or when something other than
a sign follows the terms that it begins with (`Expression.Plain`). The shape alone does not make it
plain: each term is checked before anything behind it is looked at. So a word of this shape is no
expression exactly when the numbers of all its leading terms are in range, and otherwise it is
refused for the first term in which they are not (`Expression.parse_of_plain`,
`Expression.parse_eq_ok_none_iff`). -/

namespace DiceWords

namespace Clauses

/-- The terms that a text begins with, joined by signs, whatever their numbers are. -/
def leading (text : List Char) : List Clauses :=
  match found : match? text with
  | none => []
  | some (clauses, rest) =>
    clauses :: match signed : takeSign? rest with
      | none => []
      | some (_, behind) =>
        have : behind.length < text.length := by
          have shorter := length_rest_lt_of_match? found
          rw [takeSign?_eq_some signed, List.length_cons] at shorter
          omega
        leading behind
termination_by text.length

/-- The terms behind the sign at the start of a text, if there is one. -/
def joined (text : List Char) : List Clauses :=
  match takeSign? text with
  | none => []
  | some (_, behind) => leading behind

/-- Behind a sign, the terms of a chain go on. -/
theorem joined_sign (sign : Sign) (text : List Char) : joined (sign.char :: text) = leading text := by
  rw [joined, takeSign?_cons]

/-- A text that begins with no term has no leading ones. -/
theorem leading_of_missing {text : List Char} (missing : match? text = none) :
    leading text = [] := by
  rw [leading]
  split
  · rfl
  · next found => exact absurd (missing.symm.trans found) nofun

/-- The term at the start is the first of the leading ones. -/
theorem leading_of_found {text rest : List Char} {clauses : Clauses}
    (found : match? text = some (clauses, rest)) : leading text = clauses :: joined rest := by
  rw [leading]
  split
  · next missing => exact absurd (found.symm.trans missing) nofun
  · next other after again =>
    obtain ⟨rfl, rfl⟩ := Prod.mk.inj (Option.some.inj (found.symm.trans again))
    rw [joined]
    split <;> simp_all

end Clauses

namespace Expression

open Clauses (match? leading joined)

/-- Behind terms, of which some have been read, comes something other than a sign and a term. -/
inductive Trails (limit : Nat) : Nat → List Char → Prop
  | text {read : Nat} {c : Char} {rest : List Char} (other : Sign.ofChar? c = none) :
      Trails limit read (c :: rest)
  | term {read : Nat} {text rest : List Char} {clauses : Clauses} (sign : Sign)
      (few : read < limit) (found : match? text = some (clauses, rest))
      (bare : clauses.repeats = none) (behind : Trails limit (read + 1) rest) :
      Trails limit read (sign.char :: text)

/-- The shape of plain text: no term at the start, or something else behind the terms. -/
inductive Plain (limit : Nat) (text : List Char) : Prop
  | text (missing : match? text = none)
  | dice {clauses : Clauses} {rest : List Char} (found : match? text = some (clauses, rest))
      (bare : clauses.repeats = none) (behind : Trails limit 1 rest)

variable {options : Options} {word : String}

/-! ## The shape of a plain word -/

/-- A single term that is read is written there as its clauses. -/
theorem exists_match?_of_take? {text rest : List Char} {term : Term}
    (taken : Term.take? options text = .ok (some (term, rest))) (bare : term.repeats = none) :
    ∃ clauses : Clauses, match? text = some (clauses, rest) ∧ clauses.repeats = none := by
  obtain ⟨clauses, written, numeric, ends, -, -, rfl⟩ := Term.take?_eq_ok_some_iff.mp taken
  exact ⟨clauses, Clauses.match?_eq_some_iff.mpr ⟨written, numeric, ends⟩,
    Option.map_eq_none_iff.mp bare⟩

/-- **When the rest of a chain makes the whole word plain, something trails behind its terms.** -/
theorem trails_of_links? {read : Nat} {text : List Char}
    (unlinked : links? options word read text = .ok none) : Trails options.maxTerms read text := by
  fun_induction links? options word read text with
  | case2 read c text other => exact .text other
  -- the links behind the sign and its term are none
  | case8 read c text sign signed few term rest taken shorter bare unlinked' ih =>
      obtain ⟨clauses, found, bare⟩ := exists_match?_of_take? taken (by simpa using bare)
      rw [Sign.ofChar?_eq_some signed]
      exact .term sign (Nat.lt_of_not_le few) found bare (ih unlinked')
  | _ => simp at unlinked

/-- A word that is read as plain has the form of one. -/
theorem plain_of_parse (many : options.singleDigit = false)
    (parsed : parse options word = .ok none) : Plain options.maxTerms word.toList := by
  unfold parse at parsed
  rcases taken : Term.take? options word.toList with error | _ | ⟨term, rest⟩
  · simp [taken] at parsed
  · exact .text (Term.match?_of_take? many taken)
  · simp only [taken] at parsed
    rcases bare : term.repeats with _ | times
    · obtain ⟨clauses, found, unrepeated⟩ := exists_match?_of_take? taken bare
      simp only [bare] at parsed
      rcases unlinked : links? options word 1 rest with error | _ | links
      · simp [unlinked] at parsed
      · exact .dice found unrepeated (trails_of_links? unlinked)
      · simp [unlinked] at parsed
    · simp only [bare] at parsed
      split at parsed
      · cases parsed
      · cases parsed

/-! ## What becomes of a word of this shape -/

/-- **Where something trails, the terms in front are read for their refusals only.** -/
theorem links?_of_trails (many : options.singleDigit = false) {read : Nat} {text : List Char}
    (trails : Trails options.maxTerms read text) :
    links? options word read text = Term.noneUnlessRefused options (joined text) := by
  induction trails with
  | @text read c rest other =>
      have unjoined : joined (c :: rest) = [] := by
        rw [joined, Clauses.takeSign?, other]
        rfl
      rw [links?, unjoined]
      simp only [other]
      rfl
  | term sign few found bare behind ih =>
      rw [links?_sign, if_neg (Nat.not_le_of_lt few), Clauses.joined_sign,
        Clauses.leading_of_found found]
      rcases Term.take?_of_bare many found bare with
        ⟨error, refused, taken⟩ | ⟨accepted, term, unrepeated, taken⟩
      · rw [taken, Term.noneUnlessRefused_cons_of_refused refused]
      · rw [taken, Term.noneUnlessRefused_cons_of_accepted accepted]
        simp only [unrepeated, Option.isSome_none, Bool.false_eq_true, if_false, ih]
        exact Term.map_noneUnlessRefused _

/-- **A word of the shape of plain text is never dice and never malformed.** It is refused for the
first of its leading terms that has a number out of range, and otherwise it is no expression. -/
theorem parse_of_plain (many : options.singleDigit = false)
    (plain : Plain options.maxTerms word.toList) :
    parse options word = Term.noneUnlessRefused options (leading word.toList) := by
  unfold parse
  cases plain with
  | text missing =>
      rw [Term.take?_of_missing missing, Clauses.leading_of_missing missing]
      rfl
  | dice found bare behind =>
      rw [Clauses.leading_of_found found]
      rcases Term.take?_of_bare many found bare with
        ⟨error, refused, taken⟩ | ⟨accepted, term, unrepeated, taken⟩
      · rw [taken, Term.noneUnlessRefused_cons_of_refused refused]
      · rw [taken, Term.noneUnlessRefused_cons_of_accepted accepted]
        simp only [unrepeated, links?_of_trails many behind]
        unfold Term.noneUnlessRefused
        cases (joined _).findSome? (Term.refusal? options) with
        | none => rfl
        | some error => rfl

/-- What is found without a repeat count is a single term. -/
theorem isTerm_of_match? {text rest : List Char} {clauses : Clauses}
    (found : match? text = some (clauses, rest)) (bare : clauses.repeats = none) :
    clauses.IsTerm :=
  ⟨(Clauses.match?_eq_some_iff.mp found).2.1, bare⟩

/-- The terms of a chain in front of what trails are single ones. -/
theorem Trails.isTerm {limit read : Nat} {text : List Char} (trails : Trails limit read text) :
    ∀ clauses ∈ joined text, clauses.IsTerm := by
  induction trails with
  | @text read c rest other =>
      rw [joined, Clauses.takeSign?, other]
      exact List.forall_mem_nil _
  | term sign few found bare behind ih =>
      rw [Clauses.joined_sign, Clauses.leading_of_found found]
      exact List.forall_mem_cons.mpr ⟨isTerm_of_match? found bare, ih⟩

/-- The leading terms of a plain word are single ones. -/
theorem Plain.isTerm {limit : Nat} {text : List Char} (plain : Plain limit text) :
    ∀ clauses ∈ leading text, clauses.IsTerm := by
  cases plain with
  | text missing =>
      rw [Clauses.leading_of_missing missing]
      exact List.forall_mem_nil _
  | dice found bare behind =>
      rw [Clauses.leading_of_found found]
      exact List.forall_mem_cons.mpr ⟨isTerm_of_match? found bare, behind.isTerm⟩

/-- **Which words are no expressions.** Those of the shape of plain text whose leading terms have
their numbers in range. -/
theorem parse_eq_ok_none_iff (many : options.singleDigit = false) :
    parse options word = .ok none ↔
      Plain options.maxTerms word.toList ∧
        ∀ clauses ∈ leading word.toList, clauses.Allowed options := by
  have fits (plain : Plain options.maxTerms word.toList) :
      parse options word = .ok none ↔
        ∀ clauses ∈ leading word.toList, clauses.Allowed options := by
    rw [parse_of_plain many plain, Term.noneUnlessRefused_eq_ok_none_iff]
    refine forall₂_congr fun clauses member => ?_
    have isTerm := plain.isTerm clauses member
    exact Term.refusal?_eq_none_iff many isTerm.toNumeric isTerm.bare
  constructor
  · intro parsed
    have plain := plain_of_parse many parsed
    exact ⟨plain, (fits plain).mp parsed⟩
  · intro shaped
    exact (fits shaped.1).mpr shaped.2

end Expression

end DiceWords
