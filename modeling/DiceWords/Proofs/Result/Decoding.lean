import DiceWords.Proofs.Result.History

/-! # No two chains share a history

The tokens of a history give back how many outcomes there are, and each with its sign, its faces
and its modifier (`Chain.forall₂_alike_of_tokens`). A list ends at its bracket and an outcome with a
modifier at its parenthesis, so among several outcomes each is read back whatever follows it. A
single outcome has no parentheses, and there its modifier is told from a further outcome by the
number behind the sign. -/

namespace DiceWords

open Arithmetic (Token Entry)

/-- Texts with the same end mark are the same up to it and behind it. -/
theorem append_cons_inj {α : Type} {mark : α} {first second rest rest' : List α}
    (absent : mark ∉ first) (absent' : mark ∉ second)
    (same : first ++ mark :: rest = second ++ mark :: rest') : first = second ∧ rest = rest' := by
  induction first generalizing second with
  | nil =>
      cases second with
      | nil => exact ⟨rfl, (List.cons.inj same).2⟩
      | cons head second =>
          exact absurd (List.cons.inj same).1 (List.ne_of_not_mem_cons absent')
  | cons head first ih =>
      cases second with
      | nil => exact absurd (List.cons.inj same).1.symm (List.ne_of_not_mem_cons absent)
      | cons head' second =>
          obtain ⟨rfl, sameRest⟩ := List.cons.inj same
          obtain ⟨rfl, behind⟩ := ih (List.not_mem_of_not_mem_cons absent)
            (List.not_mem_of_not_mem_cons absent') sameRest
          exact ⟨rfl, behind⟩

/-- A list is read back, whatever follows it. -/
theorem Arithmetic.listed_append_inj {entries others : List Entry} {rest rest' : List Token}
    (same : listed entries ++ .mark ']' :: rest = listed others ++ .mark ']' :: rest') :
    entries = others ∧ rest = rest' := by
  obtain ⟨sameListed, sameRest⟩ :=
    append_cons_inj (closing_not_mem_listed entries) (closing_not_mem_listed others) same
  have found := congrArg entries? sameListed
  rw [entries?_listed, entries?_listed] at found
  exact ⟨Option.some_inj.mp found, sameRest⟩

/-! ## Outcomes with the same tokens -/

namespace Outcome

variable {outcome other : Outcome}

/-- Outcomes that a history does not tell apart. -/
structure Alike (outcome other : Outcome) : Prop where
  sign : outcome.sign = other.sign
  entries : outcome.entries = other.entries
  modifier : outcome.modifier = other.modifier

theorem modifierTokens_inj {modifier other : Int}
    (same : modifierTokens modifier = modifierTokens other) : modifier = other := by
  simp only [modifierTokens, List.cons.injEq, Token.mark.injEq, Sign.char_inj, Token.number.injEq,
    and_true] at same
  obtain ⟨sameSign, sameMagnitude⟩ := same
  rw [← Spec.number_modifierSign modifier, ← Spec.number_modifierSign other, sameSign,
    sameMagnitude]

/-- The faces and the modifier are read back from the tokens. -/
theorem tokens_inj (same : outcome.tokens = other.tokens) :
    outcome.entries = other.entries ∧ outcome.modifier = other.modifier := by
  obtain ⟨entries, modified⟩ := Arithmetic.listed_append_inj (List.cons.inj same).2
  refine ⟨entries, ?_⟩
  cases written : outcome.modifier with
  | none =>
      cases written' : other.modifier with
      | none => rfl
      | some modifier =>
          rw [written, written'] at modified
          contradiction
  | some modifier =>
      cases written' : other.modifier with
      | none =>
          rw [written, written'] at modified
          contradiction
      | some modifier' =>
          rw [written, written'] at modified
          rw [modifierTokens_inj modified]

end Outcome

/-! ## Chains with the same history -/

namespace Chain

variable {outcome other : Outcome} {outcomes others : List Outcome}

/-- A part begins with a bracket, and so with no sign. -/
theorem partTokens_eq_cons (alone : Bool) (outcome : Outcome) :
    ∃ c rest, partTokens alone outcome = .mark c :: rest ∧ c ≠ '-' := by
  unfold partTokens
  split
  · exact ⟨'(', _, rfl, by decide⟩
  · exact ⟨'[', _, rfl, by decide⟩

/-- Among several, an outcome is read back, whatever follows it. -/
theorem partTokens_append_inj {rest rest' : List Token}
    (same : partTokens false outcome ++ rest = partTokens false other ++ rest') :
    outcome.entries = other.entries ∧ outcome.modifier = other.modifier ∧ rest = rest' := by
  cases written : outcome.modifier with
  | none =>
      rw [partTokens_of_none written] at same
      cases written' : other.modifier with
      | none =>
          rw [partTokens_of_none written'] at same
          have inside : Arithmetic.listed outcome.entries ++ .mark ']' :: rest =
              Arithmetic.listed other.entries ++ .mark ']' :: rest' := by
            simpa [Outcome.tokens, written, written'] using same
          obtain ⟨entries, behind⟩ := Arithmetic.listed_append_inj inside
          exact ⟨entries, rfl, behind⟩
      | some modifier =>
          rw [partTokens_of_some written'] at same
          simp [Outcome.tokens] at same
  | some modifier =>
      rw [partTokens_of_some written] at same
      cases written' : other.modifier with
      | none =>
          rw [partTokens_of_none written'] at same
          simp [Outcome.tokens] at same
      | some modifier' =>
          rw [partTokens_of_some written'] at same
          have inside :
              Arithmetic.listed outcome.entries ++
                  .mark ']' :: (Outcome.modifierTokens modifier ++ .mark ')' :: rest) =
                Arithmetic.listed other.entries ++
                  .mark ']' :: (Outcome.modifierTokens modifier' ++ .mark ')' :: rest') := by
            simpa [Outcome.tokens, written, written'] using same
          obtain ⟨entries, behind⟩ := Arithmetic.listed_append_inj inside
          obtain ⟨sameModifier, sameRest⟩ := List.append_inj behind rfl
          rw [Outcome.modifierTokens_inj sameModifier]
          exact ⟨entries, rfl, (List.cons.inj sameRest).2⟩

theorem forall₂_alike_of_linkTokens
    (same : outcomes.flatMap linkTokens = others.flatMap linkTokens) :
    List.Forall₂ Outcome.Alike outcomes others := by
  induction outcomes generalizing others with
  | nil =>
      cases others with
      | nil => exact .nil
      | cons other others => contradiction
  | cons outcome outcomes ih =>
      cases others with
      | nil => contradiction
      | cons other others =>
          rw [List.flatMap_cons, List.flatMap_cons, linkTokens, linkTokens, List.cons_append,
            List.cons_append, List.cons.injEq, Token.mark.injEq, Sign.char_inj] at same
          obtain ⟨sign, parts⟩ := same
          obtain ⟨entries, modifier, links⟩ := partTokens_append_inj parts
          exact .cons ⟨sign, entries, modifier⟩ (ih links)

/-- A leading sign is told from the outcome behind it. -/
theorem leadingTokens_append_inj {sign sign' : Sign} {alone alone' : Bool} {rest rest' : List Token}
    (same : leadingTokens sign ++ (partTokens alone outcome ++ rest) =
      leadingTokens sign' ++ (partTokens alone' other ++ rest')) :
    sign = sign' ∧ partTokens alone outcome ++ rest = partTokens alone' other ++ rest' := by
  obtain ⟨c, more, first, notMinus⟩ := partTokens_eq_cons alone outcome
  obtain ⟨c', more', first', notMinus'⟩ := partTokens_eq_cons alone' other
  rw [first, first'] at same ⊢
  cases sign with
  | plus =>
      cases sign' with
      | plus => exact ⟨rfl, same⟩
      | minus => exact absurd (Token.mark.inj (List.cons.inj same).1) notMinus
  | minus =>
      cases sign' with
      | plus => exact absurd (Token.mark.inj (List.cons.inj same).1).symm notMinus'
      | minus => exact ⟨rfl, (List.cons.inj same).2⟩

/-- One outcome is told from several: nothing or a modifier stands behind its list, and no other
outcome. -/
theorem tokens_ne_of_several (outcome first next : Outcome) (rest : List Outcome) :
    outcome.tokens ≠ partTokens false first ++ (next :: rest).flatMap linkTokens := by
  intro same
  obtain ⟨c, more, second, -⟩ := partTokens_eq_cons false next
  cases written : first.modifier with
  | none =>
      rw [partTokens_of_none written] at same
      have inside : Arithmetic.listed outcome.entries ++
            .mark ']' :: (outcome.modifier.map Outcome.modifierTokens).getD [] =
          Arithmetic.listed first.entries ++ .mark ']' :: (next :: rest).flatMap linkTokens := by
        simpa [Outcome.tokens, written] using same
      obtain ⟨-, behind⟩ := Arithmetic.listed_append_inj inside
      rw [List.flatMap_cons, linkTokens, second] at behind
      cases written' : outcome.modifier with
      | none =>
          rw [written'] at behind
          contradiction
      | some modifier =>
          rw [written'] at behind
          have digits := (List.cons.inj (List.cons.inj behind).2).1
          contradiction
  | some modifier =>
      rw [partTokens_of_some written] at same
      simp [Outcome.tokens] at same

/-- **No two chains share a history.** -/
theorem forall₂_alike_of_tokens (same : tokens outcomes = tokens others) :
    List.Forall₂ Outcome.Alike outcomes others := by
  have nonempty (outcome : Outcome) (rest : List Outcome) : tokens (outcome :: rest) ≠ [] := by
    obtain ⟨c, more, first, -⟩ := partTokens_eq_cons rest.isEmpty outcome
    simp [tokens, first]
  cases outcomes with
  | nil =>
      cases others with
      | nil => exact .nil
      | cons other others => exact absurd same.symm (nonempty other others)
  | cons outcome outcomes =>
      cases others with
      | nil => exact absurd same (nonempty outcome outcomes)
      | cons other others =>
          simp only [tokens, List.append_assoc] at same
          obtain ⟨sign, parts⟩ := leadingTokens_append_inj same
          cases outcomes with
          | nil =>
              cases others with
              | nil =>
                  have alone : outcome.tokens = other.tokens := by simpa [partTokens] using parts
                  obtain ⟨entries, modifier⟩ := Outcome.tokens_inj alone
                  exact .cons ⟨sign, entries, modifier⟩ .nil
              | cons next others =>
                  refine absurd ?_ (tokens_ne_of_several outcome other next others)
                  simpa [partTokens] using parts
          | cons next outcomes =>
              cases others with
              | nil =>
                  refine absurd ?_ (tokens_ne_of_several other outcome next outcomes)
                  simpa [partTokens] using parts.symm
              | cons next' others =>
                  obtain ⟨entries, modifier, links⟩ := partTokens_append_inj parts
                  exact .cons ⟨sign, entries, modifier⟩ (forall₂_alike_of_linkTokens links)

end Chain

end DiceWords
