import DiceWords.Proofs.Expression.Plain
import DiceWords.Proofs.Term.Renumbering

/-! # Renumbered words

Whether a word has the shape of plain text does not depend on its numbers
(`Expression.Plain.renumbered`). Whether it is ignored does: `500ft` is no expression, but `6000ft`
is refused for its dice count (`Expression.parse_renumbered_out_of_range`). A renumbered plain word
stays plain text exactly when the numbers of its leading terms are in range, and is refused for one
of them otherwise (`Expression.parse_renumbered_iff`). -/

namespace DiceWords.Expression

open Clauses (match? leading)
open Text (Renumbered numeral_of_all)

variable {limit : Nat} {text text' : List Char}

theorem Trails.renumbered {read : Nat} (trails : Trails limit read text)
    (renumbered : Renumbered text text') : Trails limit read text' := by
  have signs := Clauses.takeSign?_renumbered renumbered
  induction trails generalizing text' with
  | @text read c rest other =>
      cases text' with
      | nil => exact absurd rfl (renumbered.ne_nil (List.cons_ne_nil c rest))
      | cons c' rest' =>
          rw [Clauses.takeSign?, other] at signs
          generalize signed : Clauses.takeSign? (c' :: rest') = found at signs
          cases signs with
          | none => exact .text (Option.map_eq_none_iff.mp signed)
  | term sign few found bare behind ih =>
      rw [Clauses.takeSign?_cons] at signs
      generalize signed : Clauses.takeSign? text' = found' at signs
      cases signs with
      | @some _ found' same =>
          obtain ⟨sign', text''⟩ := found'
          obtain ⟨rfl, counted⟩ := same
          obtain ⟨clauses', rest', again, alike, trailing⟩ :=
            Clauses.exists_match?_of_renumbered counted found
          rw [Clauses.takeSign?_eq_some signed]
          exact .term sign few again (alike.bare bare)
            (ih trailing (Clauses.takeSign?_renumbered trailing))

/-- **The shape of plain text does not depend on numbers.** -/
theorem Plain.renumbered (plain : Plain limit text) (renumbered : Renumbered text text') :
    Plain limit text' := by
  cases plain with
  | text missing => exact .text (Clauses.match?_of_renumbered_of_missing renumbered missing)
  | dice found bare behind =>
      obtain ⟨clauses', rest', again, alike, trailing⟩ :=
        Clauses.exists_match?_of_renumbered renumbered found
      exact .dice again (alike.bare bare) (behind.renumbered trailing)

/-- **Renumbered plain words.** A plain word with other numbers in it is no expression exactly when
the numbers of its leading terms are in range. Otherwise it is refused for the first of them that
has a number out of range; it is never dice and never malformed. -/
theorem parse_renumbered_iff {word word' : String} (plain : parse {} word = .ok none)
    (renumbered : Renumbered word.toList word'.toList) :
    (parse {} word' = .ok none ↔
      ∀ clauses ∈ leading word'.toList, clauses.Allowed {}) ∧
    (parse {} word' ≠ .ok none →
      ∃ why, (leading word'.toList).findSome? (Term.refusal? {}) = some (.invalid why) ∧
        parse {} word' = .error (.invalid why)) := by
  have shape : Plain _ word'.toList := (plain_of_parse rfl plain).renumbered renumbered
  refine ⟨?_, fun other => ?_⟩
  · rw [parse_eq_ok_none_iff rfl]
    exact and_iff_right shape
  · rw [parse_of_plain rfl shape, Term.noneUnlessRefused] at other ⊢
    cases refused : (leading word'.toList).findSome? (Term.refusal? {}) with
    | none =>
        rw [refused] at other
        exact absurd rfl other
    | some error =>
        obtain ⟨clauses, -, found⟩ := List.exists_of_findSome?_eq_some refused
        obtain ⟨why, rfl⟩ := Term.exists_invalid_of_refusal? found
        exact ⟨why, rfl, rfl⟩

/-- Two terms in front of an exclamation mark. -/
theorem parse_renumbered_iff_two_terms :
    parse {} "2f+1r!" = .ok none ∧ Renumbered "2f+1r!".toList "12f+07r!".toList ∧
      (∀ clauses ∈ leading "12f+07r!".toList, clauses.Allowed {}) ∧
        parse {} "12f+07r!" = .ok none := by
  have plain : parse {} "2f+1r!" = .ok none := by decide +kernel
  have second : Renumbered (['1'] ++ ['r', '!']) (['0', '7'] ++ ['r', '!']) :=
    .number (numeral_of_all nofun rfl) (numeral_of_all nofun rfl) rfl (.char rfl (.char rfl .nil))
  have first : Renumbered (['2'] ++ 'f' :: '+' :: (['1'] ++ ['r', '!']))
      (['1', '2'] ++ 'f' :: '+' :: (['0', '7'] ++ ['r', '!'])) :=
    .number (numeral_of_all nofun rfl) (numeral_of_all nofun rfl) rfl (.char rfl (.char rfl second))
  have renumbered : Renumbered "2f+1r!".toList "12f+07r!".toList := first
  have terms : leading "12f+07r!".toList =
      [⟨none, ['1', '2'], .f, none, none⟩, ⟨none, ['0', '7'], .r, none, none⟩] := by
    decide +kernel
  have allowed : ∀ clauses ∈ leading "12f+07r!".toList, clauses.Allowed {} := by
    rw [terms]
    refine List.forall_mem_cons.mpr ⟨⟨nofun, by decide, nofun, nofun⟩, ?_⟩
    exact List.forall_mem_singleton.mpr ⟨nofun, by decide, nofun, nofun⟩
  exact ⟨plain, renumbered, allowed, (parse_renumbered_iff plain renumbered).1.mpr allowed⟩

/-- A dice count out of range in a word with a letter behind the die. -/
theorem parse_renumbered_out_of_range :
    parse {} "500ft" = .ok none ∧ Renumbered "500ft".toList "6000ft".toList ∧
      parse {} "6000ft" = .error (.invalid .tooManyDice) := by
  have renumbered : Renumbered (['5', '0', '0'] ++ ['f', 't']) (['6', '0', '0', '0'] ++ ['f', 't']) :=
    .number (numeral_of_all nofun rfl) (numeral_of_all nofun rfl) rfl (.char rfl (.char rfl .nil))
  exact ⟨by decide +kernel, renumbered, by decide +kernel⟩

end DiceWords.Expression
