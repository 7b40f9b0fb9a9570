import DiceWords.Proofs.Arithmetic
import DiceWords.Proofs.Expression.Printing
import DiceWords.Result

/-! # The tokens of a history

A history is written arithmetic: each outcome is a list of faces, with its modifier as a second
operand, and a chain puts signs between outcomes and parentheses around those with a modifier. Its
tokens can be named without the text (`Chain.tokens_history`), so whatever reads a history need not
look at characters again. -/

namespace DiceWords

open Arithmetic (Token Entry tokens tokens_cons)
open Text (startsDigit)

/-! ## Faces -/

/-- What a face adds to a written sum. -/
def Face.entry (face : Face) : Entry where
  value := face.value
  counts := face.kept

/-- How a face is read: its value, between strokes when it does not count. -/
theorem Face.tokens_text (face : Face) {rest : List Char} (stops : startsDigit rest = false) :
    tokens (face.text.toList ++ rest) = face.entry.tokens ++ tokens rest := by
  unfold Face.text Entry.tokens Face.entry
  cases face.kept with
  | true => exact Arithmetic.tokens_toString face.value stops
  | false =>
      have strike : "~~".toList = ['~', '~'] := rfl
      simp only [Bool.false_eq_true, if_false, String.toList_append, strike, List.append_assoc,
        List.cons_append, List.nil_append]
      rw [tokens_cons rfl, tokens_cons rfl, Arithmetic.tokens_toString face.value rfl,
        tokens_cons rfl, tokens_cons rfl]
      rfl

/-- How the faces of an outcome are read, one behind another up to the bracket. -/
theorem Face.tokens_texts (faces : List Face) (rest : List Char) :
    tokens ((", ".intercalate (faces.map Face.text)).toList ++ ']' :: rest) =
      Arithmetic.listed (faces.map Face.entry) ++ .mark ']' :: tokens rest := by
  have closing : tokens (']' :: rest) = .mark ']' :: tokens rest := tokens_cons rfl rest
  induction faces with
  | nil => exact closing
  | cons face others ih =>
      cases others with
      | nil =>
          simp only [List.map_cons, List.map_nil, String.intercalate_singleton,
            Arithmetic.listed_singleton]
          rw [face.tokens_text rfl, closing]
      | cons next others =>
          have comma : ", ".toList = [',', ' '] := rfl
          simp only [List.map_cons, String.intercalate_cons_cons, Arithmetic.listed_cons_cons,
            String.toList_append, comma, List.append_assoc, List.cons_append,
            List.nil_append] at ih ⊢
          rw [face.tokens_text rfl, tokens_cons rfl, tokens_cons rfl, ih]
          rfl

/-! ## Outcomes -/

namespace Outcome

/-- What the faces add to a written sum. -/
def entries (outcome : Outcome) : List Entry :=
  outcome.faces.map Face.entry

/-- What is read for the faces adds up to their sum. -/
theorem sum_entries (outcome : Outcome) : Entry.sum outcome.entries = outcome.sum := by
  rw [outcome.sum_eq, Entry.sum, entries, List.filter_map, List.map_map]
  rfl

/-- The tokens of a modifier behind the faces. -/
def modifierTokens (modifier : Int) : List Token :=
  [.mark (Spec.modifierSign modifier).char, .number modifier.natAbs]

/-- The tokens of the faces and the modifier. -/
def tokens (outcome : Outcome) : List Token :=
  .mark '[' :: (Arithmetic.listed outcome.entries ++
    .mark ']' :: (outcome.modifier.map modifierTokens).getD [])

/-- How a modifier is read: its sign and its magnitude. -/
theorem tokens_modifierText (modifier : Int) {rest : List Char} (stops : startsDigit rest = false) :
    Arithmetic.tokens ((modifierText modifier).toList ++ rest) =
      modifierTokens modifier ++ Arithmetic.tokens rest := by
  have magnitude := Arithmetic.tokens_toDigits modifier.natAbs stops
  unfold modifierText modifierTokens Spec.modifierSign
  by_cases negative : modifier < 0
  · have minus : " - ".toList = [' ', '-', ' '] := rfl
    have natural : (toString modifier.natAbs).toList = Nat.toDigits 10 modifier.natAbs :=
      Nat.toList_repr
    rw [if_pos negative, if_pos negative, String.toList_append, minus, natural]
    simp only [List.cons_append, List.nil_append]
    rw [tokens_cons rfl, tokens_cons rfl, tokens_cons rfl, magnitude]
    rfl
  · have plus : " + ".toList = [' ', '+', ' '] := rfl
    rw [if_neg negative, if_neg negative, String.toList_append, plus, Text.toList_toString,
      if_neg negative]
    simp only [List.cons_append, List.nil_append]
    rw [tokens_cons rfl, tokens_cons rfl, tokens_cons rfl, magnitude]
    rfl

/-- How the history of an outcome is read. -/
theorem tokens_history (outcome : Outcome) {rest : List Char} (stops : startsDigit rest = false) :
    Arithmetic.tokens (outcome.history.toList ++ rest) =
      outcome.tokens ++ Arithmetic.tokens rest := by
  obtain ⟨faces, sum, modifier, source, sign, summed⟩ := outcome
  have opening : "[".toList = ['['] := rfl
  have closing : "]".toList = [']'] := rfl
  have modified : Arithmetic.tokens (((modifier.map modifierText).getD "").toList ++ rest) =
      (modifier.map modifierTokens).getD [] ++ Arithmetic.tokens rest := by
    cases modifier with
    | none => rfl
    | some modifier => exact tokens_modifierText modifier stops
  simp only [history, tokens, entries, String.toList_append, opening, closing, List.append_assoc,
    List.cons_append, List.nil_append]
  rw [tokens_cons rfl, Face.tokens_texts, modified]
  rfl

end Outcome

/-! ## Chains -/

namespace Chain

/-- The tokens of one outcome among several. -/
def partTokens (alone : Bool) (outcome : Outcome) : List Token :=
  if !alone && outcome.modifier.isSome then .mark '(' :: outcome.tokens ++ [.mark ')']
  else outcome.tokens

/-- Without a modifier there are no parentheses. -/
theorem partTokens_of_none {alone : Bool} {outcome : Outcome}
    (unmodified : outcome.modifier = none) :
    partTokens alone outcome = outcome.tokens := by
  simp [partTokens, unmodified]

/-- Among several outcomes, one with a modifier stands in parentheses. -/
theorem partTokens_of_some {outcome : Outcome} {modifier : Int}
    (modified : outcome.modifier = some modifier) :
    partTokens false outcome = .mark '(' :: (outcome.tokens ++ [.mark ')']) := by
  simp [partTokens, modified]

/-- The tokens of an outcome behind others, with its sign. -/
def linkTokens (outcome : Outcome) : List Token :=
  .mark outcome.sign.char :: partTokens false outcome

/-- The tokens of a leading sign. -/
def leadingTokens : Sign → List Token
  | .plus => []
  | .minus => [.mark '-']

/-- The tokens of all outcomes with their signs. -/
def tokens : List Outcome → List Token
  | [] => []
  | first :: rest =>
    leadingTokens first.sign ++ partTokens rest.isEmpty first ++ rest.flatMap linkTokens

/-- An outcome behind others as it is written, with its sign. -/
def linkChars (outcome : Outcome) : List Char :=
  ' ' :: outcome.sign.char :: ' ' :: (part false outcome).toList

/-- The history of a chain is its first outcome and then, each behind its sign, the others. -/
theorem toList_history_cons (first : Outcome) (rest : List Outcome) :
    (history (first :: rest)).toList =
      (leadingSign first.sign).toList ++ (part rest.isEmpty first).toList ++
        rest.flatMap linkChars := by
  have links (alone : Bool) (outcomes : List Outcome) (start : String) :
      (outcomes.foldl
          (fun text outcome => text ++ " " ++ outcome.sign.text ++ " " ++ part alone outcome)
          start).toList =
        start.toList ++ outcomes.flatMap fun outcome =>
          ' ' :: outcome.sign.char :: ' ' :: (part alone outcome).toList := by
    have blank : " ".toList = [' '] := rfl
    induction outcomes generalizing start with
    | nil => simp
    | cons outcome others ih => simp [ih, blank]
  cases rest with
  | nil => simp [history]
  | cons next others =>
      rw [history, links, String.toList_append]
      rfl

/-- How one outcome among several is read. -/
theorem tokens_part (alone : Bool) (outcome : Outcome) {rest : List Char}
    (stops : startsDigit rest = false) :
    Arithmetic.tokens ((part alone outcome).toList ++ rest) =
      partTokens alone outcome ++ Arithmetic.tokens rest := by
  unfold part partTokens
  split
  · have opening : "(".toList = ['('] := rfl
    have closing : ")".toList = [')'] := rfl
    simp only [String.toList_append, opening, closing, List.append_assoc, List.cons_append,
      List.nil_append]
    rw [tokens_cons rfl, outcome.tokens_history rfl, tokens_cons rfl]
    rfl
  · exact outcome.tokens_history stops

/-- How the outcomes behind the first are read. A space comes first, so they do not go on with a
number in front of them. -/
theorem tokens_links (outcomes : List Outcome) :
    startsDigit (outcomes.flatMap linkChars) = false ∧
      Arithmetic.tokens (outcomes.flatMap linkChars) = outcomes.flatMap linkTokens := by
  induction outcomes with
  | nil => exact ⟨rfl, rfl⟩
  | cons outcome others ih =>
      have sign (rest : List Char) : Arithmetic.tokens (outcome.sign.char :: rest) =
          .mark outcome.sign.char :: Arithmetic.tokens rest := by
        cases outcome.sign <;> exact tokens_cons rfl rest
      refine ⟨rfl, ?_⟩
      rw [List.flatMap_cons, List.flatMap_cons, linkChars, List.cons_append, List.cons_append,
        List.cons_append, tokens_cons rfl, sign, tokens_cons rfl, tokens_part false outcome ih.1,
        ih.2]
      rfl

/-- **The tokens of a history.** -/
theorem tokens_history (outcomes : List Outcome) :
    Arithmetic.tokens (history outcomes).toList = tokens outcomes := by
  cases outcomes with
  | nil => rfl
  | cons first rest =>
      obtain ⟨stops, links⟩ := tokens_links rest
      have parts := tokens_part rest.isEmpty first stops
      rw [links] at parts
      rw [toList_history_cons, tokens, List.append_assoc, List.append_assoc]
      cases first.sign with
      | plus => exact parts
      | minus =>
          have minus : (leadingSign .minus).toList = ['-'] := rfl
          rw [minus, List.singleton_append, tokens_cons rfl, parts]
          rfl

end Chain

end DiceWords
