import DiceWords.Proofs.Term.Match
import DiceWords.Term
import Mathlib.Data.Option.Basic

/-! # What a written term stands for

Reading the clauses of a term gives its specification with the decimal values of the numbers
(`Clauses.spec`), provided that these are in range (`Clauses.Allowed`). In all other cases
no term is read (`Term.take?_eq_ok_some_iff`). -/

namespace DiceWords

open Text (value)

namespace Clauses

/-- What the clauses ask for, every number at its decimal value. -/
def spec (clauses : Clauses) : Spec where
  amount := value clauses.amount
  die := clauses.die
  keep := clauses.keep.map fun clause => { side := clause.1, count := value clause.2 }
  modifier := clauses.modifier.map fun clause => clause.1.number (value clause.2)

/-- The term that the clauses stand for. -/
def term (clauses : Clauses) : Term where
  repeats := clauses.repeats.map value
  spec := clauses.spec
  source := String.ofList clauses.sourceChars
  length := clauses.chars.length

/-- The numbers behind the repeat count are in range. -/
structure Allowed (options : Options) (clauses : Clauses) : Prop where
  singleDigit : options.singleDigit → clauses.amount.length = 1
  amount : 1 ≤ value clauses.amount ∧ value clauses.amount ≤ maxAmount
  keep : ∀ clause ∈ clauses.keep, 1 ≤ value clause.2 ∧ value clause.2 ≤ value clauses.amount
  modifier : ∀ clause ∈ clauses.modifier, value clause.2 ≤ maxTotal

end Clauses

namespace Term

/-! ## Numbers -/

/-- A field is read exactly when its value is within the bound. -/
theorem map_number_eq_ok_iff {α : Type} {field : Nat → α} {bound : Nat} {digits : List Char}
    {a : α} :
    (number bound digits).map field = .ok a ↔ value digits ≤ bound ∧ field (value digits) = a := by
  unfold number
  rw [Text.valueUpTo?_eq]
  by_cases small : value digits ≤ bound <;> simp [small, Except.map]

/-- Digits are read when the number they stand for is not beyond the bound. -/
theorem number_eq_ok_iff {bound n : Nat} {digits : List Char} :
    number bound digits = .ok n ↔ value digits ≤ bound ∧ value digits = n := by
  have fits : (number bound digits).map id = .ok n ↔ _ := map_number_eq_ok_iff
  rwa [show (number bound digits).map id = number bound digits by
    cases number bound digits <;> rfl] at fits

/-- A keep clause is read when its count can be held. -/
theorem keepOf_eq_ok_iff {clause : Keep.Side × List Char} {keep : Keep} :
    keepOf clause = .ok keep ↔
      value clause.2 ≤ maxCount ∧ { side := clause.1, count := value clause.2 } = keep :=
  map_number_eq_ok_iff

/-- A modifier is read when its magnitude can be held. -/
theorem modifierOf_eq_ok_iff {clause : Sign × List Char} {modifier : Int} :
    modifierOf clause = .ok modifier ↔
      value clause.2 ≤ maxTotal ∧ clause.1.number (value clause.2) = modifier :=
  map_number_eq_ok_iff

/-- An optional clause is read exactly when what is written can be read. -/
theorem mapM_eq_ok_iff {α β : Type} {read : α → Except Error β} {fits : α → Prop} {get : α → β}
    (reads : ∀ a b, read a = .ok b ↔ fits a ∧ get a = b) {clause : Option α} {result : Option β} :
    clause.mapM read = .ok result ↔ (∀ a ∈ clause, fits a) ∧ clause.map get = result := by
  cases clause with
  | none => simp [pure, Except.pure]
  | some a =>
      simp only [Option.mapM_some, Option.mem_some_iff, forall_eq', Option.map_some]
      cases outcome : read a with
      | error e =>
          have misfit : ¬ fits a := fun fit => by
            simp [(reads a (get a)).mpr ⟨fit, rfl⟩] at outcome
          simp [misfit, Functor.map, Except.map]
      | ok b =>
          obtain ⟨fit, rfl⟩ := (reads a b).mp outcome
          simp [fit, Functor.map, Except.map]

/-- **The rules on how the numbers of a term go together**, as bounds on each of them. -/
theorem fault?_eq_none_iff {amount : Nat} {repeats : Option Nat} {keep : Option Keep} :
    fault? amount repeats keep = none ↔
      (1 ≤ amount ∧ amount ≤ maxAmount) ∧ (∀ n ∈ repeats, 1 ≤ n ∧ n ≤ maxRepeats) ∧
        ∀ clause ∈ keep, 1 ≤ clause.count ∧ clause.count ≤ amount := by
  unfold fault?
  rcases repeats with _ | times <;> rcases keep with _ | keep <;>
    simp <;> grind

/-- Two readings one after the other succeed when both do. -/
theorem bind_eq_ok_iff {α β : Type} {first : Except Error α} {next : α → Except Error β} {b : β} :
    first >>= next = .ok b ↔ ∃ a, first = .ok a ∧ next a = .ok b := by
  cases first <;> simp [bind, Except.bind]

/-! ## Whole terms -/

/-- Only clauses with their numbers in range are read as a term, and it is what they stand for. -/
theorem allowed_of_ofClauses {options : Options} {clauses : Clauses} {term : Term}
    (numeric : clauses.Numeric) (read : ofClauses options clauses = .ok (some term)) :
    (∀ digits ∈ clauses.repeats, 1 ≤ value digits ∧ value digits ≤ maxRepeats) ∧
      clauses.Allowed options ∧ clauses.term = term := by
  obtain ⟨repeats, repeatsRead, read⟩ := bind_eq_ok_iff.mp read
  split at read
  · simp [pure, Except.pure] at read
  · next short =>
    obtain ⟨amount, amountRead, read⟩ := bind_eq_ok_iff.mp read
    obtain ⟨die, dieRead, read⟩ := bind_eq_ok_iff.mp read
    obtain ⟨keep, keepRead, read⟩ := bind_eq_ok_iff.mp read
    obtain ⟨modifier, modifierRead, read⟩ := bind_eq_ok_iff.mp read
    split at read
    · simp [throw, throwThe, MonadExceptOf.throw] at read
    · next sound =>
      obtain ⟨-, rfl⟩ := (mapM_eq_ok_iff fun _ _ => number_eq_ok_iff).mp repeatsRead
      obtain ⟨-, rfl⟩ := number_eq_ok_iff.mp amountRead
      obtain rfl := Except.ok.inj ((Die.read_letter clauses.die).symm.trans dieRead)
      obtain ⟨-, rfl⟩ := (mapM_eq_ok_iff fun _ _ => keepOf_eq_ok_iff).mp keepRead
      obtain ⟨small, rfl⟩ := (mapM_eq_ok_iff fun _ _ => modifierOf_eq_ok_iff).mp modifierRead
      -- the bounds that counts are read with follow from the rules on them
      obtain ⟨amountFits, repeatsFit, keepFits⟩ := fault?_eq_none_iff.mp sound
      have singleDigit : options.singleDigit → clauses.amount.length = 1 := by
        intro single
        have positive := List.length_pos_iff.mpr numeric.amount.nonempty
        have atMost : ¬ 1 < clauses.amount.length := by simpa [single] using short
        omega
      exact ⟨Option.forall_mem_map.mp repeatsFit,
        ⟨singleDigit, amountFits, Option.forall_mem_map.mp keepFits, small⟩,
        Option.some.inj (Except.ok.inj read)⟩

/-- Clauses with their numbers in range are read as the term they stand for. -/
theorem ofClauses_of_allowed {options : Options} {clauses : Clauses}
    (repeatsFit : ∀ digits ∈ clauses.repeats, 1 ≤ value digits ∧ value digits ≤ maxRepeats)
    (allowed : clauses.Allowed options) :
    ofClauses options clauses = .ok (some clauses.term) := by
  have short : ¬ (options.singleDigit && decide (1 < clauses.amount.length)) := by
    intro long
    obtain ⟨single, more⟩ := Bool.and_eq_true_iff.mp long
    have one := allowed.singleDigit single
    simp [one] at more
  have bounds : maxRepeats ≤ maxCount ∧ maxAmount ≤ maxCount := by decide
  have amountSmall := Nat.le_trans allowed.amount.2 bounds.2
  have repeatsRead : clauses.repeats.mapM (number maxCount) = .ok (clauses.repeats.map value) :=
    (mapM_eq_ok_iff fun _ _ => number_eq_ok_iff).mpr
      ⟨fun digits written => Nat.le_trans (repeatsFit digits written).2 bounds.1, rfl⟩
  have amountRead : number maxCount clauses.amount = .ok (value clauses.amount) :=
    number_eq_ok_iff.mpr ⟨amountSmall, rfl⟩
  have keepRead : clauses.keep.mapM keepOf = .ok clauses.spec.keep :=
    (mapM_eq_ok_iff fun _ _ => keepOf_eq_ok_iff).mpr
      ⟨fun clause written => Nat.le_trans (allowed.keep clause written).2 amountSmall, rfl⟩
  have modifierRead : clauses.modifier.mapM modifierOf = .ok clauses.spec.modifier :=
    (mapM_eq_ok_iff fun _ _ => modifierOf_eq_ok_iff).mpr ⟨allowed.modifier, rfl⟩
  have sound : fault? (value clauses.amount) (clauses.repeats.map value) clauses.spec.keep = none :=
    fault?_eq_none_iff.mpr
      ⟨allowed.amount, Option.forall_mem_map.mpr repeatsFit, Option.forall_mem_map.mpr allowed.keep⟩
  unfold ofClauses
  simp only [repeatsRead, amountRead, Die.read_letter, keepRead, modifierRead, bind, Except.bind,
    short, sound, Bool.false_eq_true, if_false]
  rfl

/-- **The term at the start of a text** is written there, has its numbers in range, and is not
continued by what follows. -/
theorem take?_eq_ok_some_iff {options : Options} {text rest : List Char} {term : Term} :
    take? options text = .ok (some (term, rest)) ↔
      ∃ clauses : Clauses, text = clauses.chars ++ rest ∧ clauses.Numeric ∧ clauses.Ends rest ∧
        (∀ digits ∈ clauses.repeats, 1 ≤ value digits ∧ value digits ≤ maxRepeats) ∧
          clauses.Allowed options ∧ clauses.term = term := by
  constructor
  · intro taken
    unfold take? at taken
    split at taken
    · simp at taken
    · next clauses after found =>
      obtain ⟨written, numeric, ends⟩ := Clauses.match?_eq_some_iff.mp found
      rcases read : ofClauses options clauses with e | _ | other
      · simp [read, Except.map] at taken
      · simp [read, Except.map] at taken
      · simp only [read, Except.map, Option.map_some, Except.ok.injEq, Option.some.injEq,
          Prod.mk.injEq] at taken
        obtain ⟨rfl, rfl⟩ := taken
        exact ⟨clauses, written, numeric, ends, allowed_of_ofClauses numeric read⟩
  · rintro ⟨clauses, written, numeric, ends, repeatsFit, allowed, rfl⟩
    have found := Clauses.match?_eq_some_iff.mpr ⟨written, numeric, ends⟩
    have read := ofClauses_of_allowed repeatsFit allowed
    simp only [take?, found, read, Except.map, Option.map_some]

/-- What follows a term is the end of the text. -/
theorem suffix_of_take? {options : Options} {text rest : List Char} {term : Term}
    (taken : take? options text = .ok (some (term, rest))) : rest <:+ text := by
  obtain ⟨clauses, written, -⟩ := take?_eq_ok_some_iff.mp taken
  exact ⟨clauses.chars, written.symm⟩

end Term

end DiceWords
