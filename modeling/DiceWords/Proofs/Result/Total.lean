import DiceWords.Proofs.Result.History

/-! # A history adds up to its total

Read as arithmetic, the history of several outcomes comes to the sum of their signed totals
(`Chain.read?_history_of_several`): each is one operand, since one with a modifier is put in
parentheses. A single outcome never is, so a minus in front of it reaches its faces and not its
modifier (`Chain.read?_history_of_one`). As long as no sum leaves the range, this is the only way in
which a history can miss the total (`Chain.read?_history_eq_total_iff`). -/

namespace DiceWords

open Arithmetic (Token Partial Reader read?)

/-! ## Totals of any size -/

namespace Outcome

/-- The sum of the faces that count, plus the modifier, of any size. -/
def exactTotal (outcome : Outcome) : Int :=
  outcome.sum + outcome.modifier.getD 0

/-- The exact total with the sign applied. -/
def exactSigned (outcome : Outcome) : Int :=
  outcome.sign.exact outcome.exactTotal

end Outcome

namespace Chain

/-- The signed outcomes of a chain, added from the left, of any size. -/
def exactTotal (outcomes : List Outcome) : Int :=
  (outcomes.map Outcome.exactSigned).foldl (· + ·) 0

/-- No total that is formed on the way to the combined one leaves the range. -/
structure TotalsInRange (outcomes : List Outcome) : Prop where
  totals : ∀ outcome ∈ outcomes, minTotal ≤ outcome.exactTotal ∧ outcome.exactTotal ≤ maxTotal
  signed : ∀ outcome ∈ outcomes, minTotal ≤ outcome.exactSigned ∧ outcome.exactSigned ≤ maxTotal
  sums : ∀ sum ∈ (outcomes.map Outcome.exactSigned).scanl (· + ·) 0,
    minTotal ≤ sum ∧ sum ≤ maxTotal

/-- No sum that is formed on the way to the combined total leaves the range, those of the faces
among them. The faces that count are added from the left, before any modifier. -/
structure InRange (outcomes : List Outcome) : Prop extends TotalsInRange outcomes where
  faces : ∀ outcome ∈ outcomes, ∀ sum ∈ outcome.kept.scanl (· + ·) 0,
    minTotal ≤ sum ∧ sum ≤ maxTotal

end Chain

/-! ## Reading one outcome -/

namespace Outcome

/-- A modifier is added to what stands in front of it. -/
theorem run?_modifier (modifier : Int) {sum : Int} {outer : List Partial} (rest : List Token) :
    Reader.run? ⟨.complete sum, outer, none⟩ (modifierTokens modifier ++ rest) =
      Reader.run? ⟨.complete (sum + modifier), outer, none⟩ rest := by
  have magnitude : (Spec.modifierSign modifier).exact modifier.natAbs = modifier := by
    unfold Spec.modifierSign
    split <;> simp only [Sign.exact] <;> omega
  simp only [modifierTokens, List.cons_append, List.nil_append]
  rw [Reader.run?_sign, Reader.run?_number, magnitude]

/-- The faces are read as one operand, and the modifier as the next. -/
theorem run?_tokens (outcome : Outcome) (current : Partial) (outer : List Partial)
    (rest : List Token) :
    Reader.run? ⟨current, outer, none⟩ (outcome.tokens ++ rest) =
      (current.add? outcome.sum).bind fun next =>
        Reader.run? ⟨next, outer, none⟩ ((outcome.modifier.map modifierTokens).getD [] ++ rest) := by
  simp only [tokens, List.append_assoc, List.cons_append]
  rw [Reader.run?_list, sum_entries]

end Outcome

namespace Chain

/-- **Among several, an outcome is one operand.** With a modifier it is put in parentheses. -/
theorem run?_part (outcome : Outcome) {current : Partial} {outer : List Partial}
    (rest : List Token) :
    Reader.run? ⟨current, outer, none⟩ (partTokens false outcome ++ rest) =
      (current.add? outcome.exactTotal).bind fun next => Reader.run? ⟨next, outer, none⟩ rest := by
  cases modified : outcome.modifier with
  | none =>
      rw [partTokens_of_none modified, outcome.run?_tokens, Outcome.exactTotal, modified,
        Option.getD_none, Int.add_zero]
      rfl
  | some modifier =>
      rw [partTokens_of_some modified, List.cons_append, List.append_assoc, List.singleton_append,
        Reader.run?_opening, outcome.run?_tokens, modified]
      change Reader.run? ⟨.complete outcome.sum, current :: outer, none⟩
        (Outcome.modifierTokens modifier ++ .mark ')' :: rest) = _
      rw [Outcome.run?_modifier, Reader.run?_closing, Outcome.exactTotal, modified]
      rfl

/-- Outcomes behind others are added from the left, each with its sign. -/
theorem run?_links (outcomes : List Outcome) {sum : Int} {outer : List Partial} :
    Reader.run? ⟨.complete sum, outer, none⟩ (outcomes.flatMap linkTokens) =
      some ⟨.complete ((outcomes.map Outcome.exactSigned).foldl (· + ·) sum), outer, none⟩ := by
  induction outcomes generalizing sum with
  | nil => rfl
  | cons outcome others ih =>
      rw [List.flatMap_cons, linkTokens, List.cons_append, Reader.run?_sign, run?_part]
      exact ih

/-- How far a sum has been read behind a leading sign. -/
def leading : Sign → Partial
  | .plus => .start
  | .minus => .signed 0 .minus

/-- What a sign in front of a sum leaves to be read. -/
theorem run?_leadingTokens (sign : Sign) (rest : List Token) :
    Reader.run? {} (leadingTokens sign ++ rest) = Reader.run? ⟨leading sign, [], none⟩ rest := by
  cases sign <;> rfl

/-- The first operand is taken with the sign in front of it. -/
theorem add?_leading (sign : Sign) (n : Int) :
    (leading sign).add? n = some (.complete (sign.exact n)) := by
  cases sign with
  | plus => rfl
  | minus => simp only [leading, Partial.add?, Int.zero_add]

/-- The history of several outcomes comes to their exact total. -/
theorem read?_history_of_several (first next : Outcome) (rest : List Outcome) :
    read? (history (first :: next :: rest)) = some (exactTotal (first :: next :: rest)) := by
  have start : exactTotal (first :: next :: rest) =
      ((next :: rest).map Outcome.exactSigned).foldl (· + ·) first.exactSigned := by
    rw [exactTotal, List.map_cons, List.foldl_cons, Int.zero_add]
  have run : Reader.run? {} (Arithmetic.tokens (history (first :: next :: rest)).toList) =
      some ⟨.complete (exactTotal (first :: next :: rest)), [], none⟩ := by
    rw [tokens_history, tokens, List.append_assoc, run?_leadingTokens, List.isEmpty_cons, run?_part,
      add?_leading, start]
    exact run?_links (next :: rest)
  rw [read?, run]
  rfl

/-- The sign in front of a single outcome does not reach its modifier. -/
theorem read?_history_of_one (outcome : Outcome) :
    read? (history [outcome]) =
      some (outcome.sign.exact outcome.sum + outcome.modifier.getD 0) := by
  have run : Reader.run? {} (Arithmetic.tokens (history [outcome]).toList) =
      some ⟨.complete (outcome.sign.exact outcome.sum + outcome.modifier.getD 0), [], none⟩ := by
    have alone : tokens [outcome] = leadingTokens outcome.sign ++ (outcome.tokens ++ []) := by
      simp [tokens, partTokens]
    rw [tokens_history, alone, run?_leadingTokens, Outcome.run?_tokens, add?_leading,
      Option.bind_some]
    cases outcome.modifier with
    | none => simp [Reader.run?]
    | some modifier => exact Outcome.run?_modifier modifier []
  rw [read?, run]
  rfl

/-! ## The total -/

/-- A sum that never leaves the range is exact. -/
theorem foldl_saturate {totals : List Int} {start : Int}
    (sums : ∀ sum ∈ totals.scanl (· + ·) start, minTotal ≤ sum ∧ sum ≤ maxTotal) :
    totals.foldl (fun sum total => saturate (sum + total)) start =
      totals.foldl (· + ·) start := by
  induction totals generalizing start with
  | nil => rfl
  | cons total rest ih =>
      rw [List.scanl_cons, List.forall_mem_cons] at sums
      obtain ⟨low, high⟩ := sums.2 (start + total) (by cases rest <;> simp)
      rw [List.foldl_cons, List.foldl_cons, saturate_eq_self low high, ih sums.2]

/-- **A total is the exact one when none on the way leaves the range.** -/
theorem TotalsInRange.total_eq {outcomes : List Outcome} (inRange : TotalsInRange outcomes) :
    total outcomes = exactTotal outcomes := by
  have exact : outcomes.map Outcome.signedTotal = outcomes.map Outcome.exactSigned := by
    apply List.map_congr_left
    intro outcome member
    obtain ⟨low, high⟩ := inRange.totals outcome member
    obtain ⟨signedLow, signedHigh⟩ := inRange.signed outcome member
    have unsigned : outcome.total = outcome.exactTotal := saturate_eq_self low high
    unfold Outcome.signedTotal Outcome.exactSigned at *
    rw [unsigned]
    cases written : outcome.sign with
    | plus => rfl
    | minus =>
        rw [written] at signedLow signedHigh
        exact saturate_eq_self signedLow signedHigh
  have sums : total outcomes = (outcomes.map Outcome.signedTotal).foldl
      (fun sum total => saturate (sum + total)) 0 := by
    rw [List.foldl_map]
    rfl
  rw [sums, exact, foldl_saturate inRange.sums]
  rfl

/-- **A history adds up to its total**, unless a single outcome with a modifier stands behind a
minus: its modifier is printed without parentheses, so the minus does not reach it. -/
theorem read?_history_eq_total_iff {outcomes : List Outcome} (nonempty : outcomes ≠ [])
    (inRange : InRange outcomes) :
    ∃ sum, read? (history outcomes) = some sum ∧
      (sum = total outcomes ↔
        ∀ outcome, outcomes = [outcome] → outcome.sign = .minus →
          outcome.modifier.getD 0 = 0) := by
  rw [inRange.total_eq]
  match outcomes with
  | [] => exact absurd rfl nonempty
  | [outcome] =>
      refine ⟨_, read?_history_of_one outcome, ?_⟩
      have exact : exactTotal [outcome] = outcome.sign.exact outcome.exactTotal := Int.zero_add _
      rw [exact, Outcome.exactTotal]
      constructor
      · intro same other only minus
        obtain rfl : outcome = other := List.head_eq_of_cons_eq only
        simp only [minus, Sign.exact] at same
        omega
      · intro unmodified
        cases sign : outcome.sign with
        | plus => rfl
        | minus =>
            rw [unmodified outcome rfl sign, Int.add_zero, Int.add_zero]
  | first :: next :: rest =>
      refine ⟨_, read?_history_of_several first next rest, ?_⟩
      constructor
      · intro same other only
        cases only
      · intro unmodified
        rfl

/-- Two dice less a die with a modifier. -/
theorem read?_history_eq_total_iff_two_outcomes :
    let outcomes : List Outcome := [
      { faces := [⟨1, none, true⟩, ⟨4, none, true⟩], modifier := none, source := "2f", sign := .plus },
      { faces := [⟨-3, none, true⟩], modifier := some (-1), source := "1f-1", sign := .minus }]
    outcomes ≠ [] ∧ InRange outcomes ∧ history outcomes = "[1, 4] - ([-3] - 1)" ∧
      total outcomes = 9 ∧ read? (history outcomes) = some 9 := by
  intro outcomes
  have nonempty : outcomes ≠ [] := List.cons_ne_nil _ _
  have inRange : InRange outcomes := ⟨⟨by decide, by decide, by decide⟩, by decide⟩
  have nine : total outcomes = 9 := rfl
  obtain ⟨sum, read, same⟩ := read?_history_eq_total_iff nonempty inRange
  have grouped : sum = total outcomes := by
    apply same.mpr
    intro outcome only
    have one : outcomes.length = 1 := congrArg List.length only
    exact absurd one (by decide)
  exact ⟨nonempty, inRange, rfl, nine, by rw [read, grouped, nine]⟩

/-- A single outcome behind a minus: the minus reaches its face and not its modifier. -/
theorem read?_history_ne_total :
    let outcomes : List Outcome := [
      { faces := [⟨1, none, true⟩], modifier := some 1, source := "1f+1", sign := .minus }]
    InRange outcomes ∧ history outcomes = "-[1] + 1" ∧ read? (history outcomes) = some 0 ∧
      total outcomes = -2 :=
  ⟨⟨⟨by decide, by decide, by decide⟩, by decide⟩, rfl, read?_history_of_one _, rfl⟩

end Chain

end DiceWords
