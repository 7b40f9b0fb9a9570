import DiceWords.Proofs.Query.Range
import DiceWords.Proofs.Result.Total
import Mathlib.Algebra.Order.BigOperators.Group.List
import Mathlib.Algebra.Order.Ring.Nat

/-! # Where totals are exact

No die shows more than twelve in magnitude, so the faces that count add up to a small number, in
whatever order they are added (`Link.natAbs_sum_le`). Only modifiers can bring a total near the ends
of the range. As long as the magnitudes in a chain add up to no more than the largest total, no sum
on the way leaves the range, in any order of the outcomes (`Chain.total_eq_sum`). -/

namespace DiceWords

/-! ## Sums of small magnitude -/

/-- A sum is no larger in magnitude than its parts are together. -/
theorem natAbs_sum_le (values : List Int) : values.sum.natAbs ≤ (values.map Int.natAbs).sum :=
  List.le_sum_of_subadditive Int.natAbs (Nat.le_of_eq Int.natAbs_zero) Int.natAbs_add_le values

/-- Nor is any sum on the way. -/
theorem natAbs_le_of_mem_scanl {values : List Int} {start sum : Int}
    (member : sum ∈ values.scanl (· + ·) start) :
    sum.natAbs ≤ start.natAbs + (values.map Int.natAbs).sum := by
  induction values generalizing start with
  | nil =>
      rw [List.scanl_nil, List.mem_singleton] at member
      rw [member]
      exact Nat.le_add_right _ _
  | cons value rest ih =>
      rw [List.scanl_cons, List.mem_cons] at member
      rw [List.map_cons, List.sum_cons]
      cases member with
      | inl first => omega
      | inr behind =>
          have bound := ih behind
          have step := Int.natAbs_add_le start value
          omega

/-- What is no larger in magnitude than the largest total is in range. -/
theorem inRange_of_natAbs_le {n : Int} (small : n.natAbs ≤ maxTotal) :
    minTotal ≤ n ∧ n ≤ maxTotal := by
  unfold maxTotal at small
  unfold minTotal maxTotal
  omega

/-! ## Outcomes -/

/-- No die shows more than twelve in magnitude. -/
theorem Die.natAbs_le_twelve {die : Die} {value : Int}
    (inRange : die.lowest ≤ value ∧ value ≤ die.highest) : value.natAbs ≤ 12 := by
  cases die <;> simp only [Die.lowest, Die.highest, Die.sides, Die.offset] at inRange <;> omega

/-- **The faces that count add up to a small number**, and so do any of them. -/
theorem Link.natAbs_sum_le {link : Link} {draws : List Int} (fair : link.Fair draws)
    {part : List Int} (counted : part.Sublist (link.outcomeOf draws).kept) :
    part.sum.natAbs ≤ 12 * link.term.spec.amount := by
  have shown : part.Sublist (link.outcomeOf draws).rolls :=
    counted.trans (List.filter_sublist.map Face.value)
  have size : (link.outcomeOf draws).rolls.length = link.term.spec.amount := by
    rw [(link.shows_outcomeOf fair.count).values.length_eq, List.length_map, fair.count]
  have fewer := shown.length_le
  calc part.sum.natAbs
      ≤ (part.map Int.natAbs).sum := DiceWords.natAbs_sum_le part
    _ ≤ (part.map fun _ => 12).sum := by
        apply List.sum_le_sum
        intro value member
        exact Die.natAbs_le_twelve (fair.value_mem_range value (shown.mem member))
    _ = 12 * part.length := by
        rw [List.map_const', List.sum_replicate_nat, Nat.mul_comm]
    _ ≤ 12 * link.term.spec.amount := Nat.mul_le_mul_left 12 (fewer.trans_eq size)

namespace Outcome

/-- A sign does not change the magnitude. -/
theorem natAbs_exactSigned (outcome : Outcome) :
    outcome.exactSigned.natAbs = outcome.exactTotal.natAbs := by
  unfold exactSigned
  cases outcome.sign with
  | plus => rfl
  | minus => exact Int.natAbs_neg _

/-- The numbers of an outcome that shows a term. No sum of faces that count leaves the range,
whichever of them are added, and the total is the exact one or the end of the range next to it. -/
structure Accurate (outcome : Outcome) (link : Link) : Prop where
  modifier : outcome.modifier = link.term.spec.modifier
  sum : outcome.sum = outcome.kept.sum
  small : ∀ part : List Int, part.Sublist outcome.kept →
    part.sum.natAbs ≤ 12 * link.term.spec.amount ∧ part.sum.natAbs ≤ 60000 ∧
      minTotal ≤ part.sum ∧ part.sum ≤ maxTotal
  exact : minTotal ≤ outcome.sum + outcome.modifier.getD 0 →
    outcome.sum + outcome.modifier.getD 0 ≤ maxTotal →
    outcome.total = outcome.sum + outcome.modifier.getD 0
  lowest : outcome.sum + outcome.modifier.getD 0 < minTotal → outcome.total = minTotal
  highest : maxTotal < outcome.sum + outcome.modifier.getD 0 → outcome.total = maxTotal

end Outcome

/-- **An outcome of fair draws is accurate.** -/
theorem Link.accurate_outcomeOf {options : Options} {link : Link} {draws : List Int}
    (fits : link.term.spec.Fits options) (fair : link.Fair draws) :
    (link.outcomeOf draws).Accurate link where
  modifier := rfl
  sum := (link.outcomeOf draws).sum_eq_sum_kept
  small := by
    intro part counted
    have small := Link.natAbs_sum_le fair counted
    have few : link.term.spec.amount ≤ 5000 := fits.amount.2
    have within : part.sum.natAbs ≤ 60000 := by omega
    exact ⟨small, within, inRange_of_natAbs_le (within.trans (by decide))⟩
  exact := saturate_eq_self
  lowest := by
    intro low
    unfold Outcome.total saturate
    unfold minTotal at *
    omega
  highest := by
    intro high
    unfold Outcome.total saturate
    unfold maxTotal minTotal at *
    omega

/-! ## Chains -/

namespace Chain

/-- Outcomes whose magnitudes add up to a total have all their totals in range. -/
theorem totalsInRange_of_small {outcomes : List Outcome}
    (small : (outcomes.map fun outcome => outcome.exactTotal.natAbs).sum ≤ maxTotal) :
    TotalsInRange outcomes := by
  have single : ∀ outcome ∈ outcomes, outcome.exactTotal.natAbs ≤ maxTotal := by
    intro outcome member
    have listed : outcome.exactTotal.natAbs ∈
        outcomes.map fun outcome => outcome.exactTotal.natAbs :=
      List.mem_map_of_mem (f := fun outcome : Outcome => outcome.exactTotal.natAbs) member
    exact (List.le_sum_of_mem listed).trans small
  refine ⟨fun outcome member => inRange_of_natAbs_le (single outcome member), ?_, ?_⟩
  · intro outcome member
    apply inRange_of_natAbs_le
    rw [outcome.natAbs_exactSigned]
    exact single outcome member
  · intro sum member
    have bound := natAbs_le_of_mem_scanl member
    rw [List.map_map] at bound
    have same : (Int.natAbs ∘ Outcome.exactSigned) =
        fun outcome : Outcome => outcome.exactTotal.natAbs :=
      funext Outcome.natAbs_exactSigned
    rw [same, Int.natAbs_zero, Nat.zero_add] at bound
    exact inRange_of_natAbs_le (bound.trans small)

/-- **A total of small magnitudes is the exact sum.** -/
theorem total_eq_sum {outcomes : List Outcome}
    (small : (outcomes.map fun outcome => outcome.exactTotal.natAbs).sum ≤ maxTotal) :
    total outcomes = (outcomes.map Outcome.exactSigned).sum := by
  rw [(totalsInRange_of_small small).total_eq, exactTotal, List.sum_eq_foldl]

/-- Such a total does not depend on the order of the outcomes. -/
theorem total_perm {outcomes others : List Outcome} (same : others.Perm outcomes)
    (small : (outcomes.map fun outcome => outcome.exactTotal.natAbs).sum ≤ maxTotal) :
    total others = total outcomes := by
  have smallToo : (others.map fun outcome => outcome.exactTotal.natAbs).sum ≤ maxTotal := by
    rwa [(same.map _).sum_eq]
  rw [total_eq_sum small, total_eq_sum smallToo, (same.map Outcome.exactSigned).sum_eq]

end Chain

/-! ## Solved words -/

/-- What a term can add to a total, at most. -/
def Link.magnitude (link : Link) : Nat :=
  (link.term.spec.modifier.getD 0).natAbs + 12 * link.term.spec.amount

/-- An accurate outcome adds no more to a total than its term can. -/
theorem Outcome.Accurate.natAbs_exactTotal_le {outcome : Outcome} {link : Link}
    (accurate : outcome.Accurate link) : outcome.exactTotal.natAbs ≤ link.magnitude := by
  have sum := (accurate.small outcome.kept (List.Sublist.refl _)).1
  rw [← accurate.sum] at sum
  have split := Int.natAbs_add_le outcome.sum (outcome.modifier.getD 0)
  rw [exactTotal, Link.magnitude, ← accurate.modifier]
  omega

/-- The magnitudes of outcomes are bounded by those of their terms. -/
theorem Chain.small_of_accurate {outcomes : List Outcome} {links : List Link}
    (accurate : List.Forall₂ Outcome.Accurate outcomes links)
    (few : (links.map Link.magnitude).sum ≤ maxTotal) :
    (outcomes.map fun outcome => outcome.exactTotal.natAbs).sum ≤ maxTotal := by
  have bounds : List.Forall₂ (· ≤ ·) (outcomes.map fun outcome => outcome.exactTotal.natAbs)
      (links.map Link.magnitude) := by
    rw [List.forall₂_map_left_iff, List.forall₂_map_right_iff]
    exact accurate.imp fun _ _ accurate => accurate.natAbs_exactTotal_le
  exact bounds.sum_le_sum.trans few

/-- When a word that was read is rolled in range, its outcomes are accurate. -/
theorem Expression.accurate_resultOf {options : Options} {word : String} {expression : Expression}
    (parsed : parse options word = .ok (some expression)) {σ : Type} {source : Source σ}
    {state final : σ} (inRange : source.InRange state) {draws : List Int}
    (drawn : (expression.throws.mapM source.draw).run state = (draws, final)) (query : String) :
    List.Forall₂ Outcome.Accurate (expression.resultOf query draws).outcomes expression.links := by
  obtain ⟨flat, counts⟩ := Link.deal_of_length (length_eq_of_run_mapM drawn)
  have dealt : (((Link.deal expression.links draws).flatMap fun part => part.1.throws).mapM
      source.draw).run state = ((Link.deal expression.links draws).flatMap Prod.snd, final) := by
    rw [Link.flatMap_throws_deal, flat]
    exact drawn
  have fair := inRange.fair_of_mem counts dealt
  have parts : List.Forall₂ Outcome.Accurate
      ((Link.deal expression.links draws).map fun part => part.1.outcomeOf part.2)
      ((Link.deal expression.links draws).map Prod.fst) := by
    rw [List.forall₂_map_left_iff, List.forall₂_map_right_iff, List.forall₂_same]
    intro part member
    have listed : part.1 ∈ expression.links := by
      rw [← Link.map_fst_deal expression.links draws]
      exact List.mem_map_of_mem member
    exact Link.accurate_outcomeOf (fits_of_parse parsed part.1 listed) (fair part member)
  rwa [Link.map_fst_deal] at parts

/-- **Totals are exact wherever they can be.** A word that is an expression is solved with a source
in range. No sum of faces that count leaves the range, and each total is the exact one, or the end
of the range next to it. When the magnitudes of the modifiers in a chain and twelve for each die add
up to no more than the largest total, the total of the chain is the exact sum of its outcomes with
their signs, and stays the same in any order of the outcomes. -/
theorem Query.solve_totals_exact {σ : Type} {options : Options} {source : Source σ}
    {word : String} {expression : Expression} {state : σ}
    (parsed : (ofWord word).parse options = .ok (some expression))
    (inRange : source.InRange state) :
    ∃ (result : Result) (final : σ),
      ((ofWord word).solve options source).run state = (.ok (some result), final) ∧
      List.Forall₂ Outcome.Accurate result.outcomes expression.links ∧
      ∀ links, expression = .chain links → (links.map Link.magnitude).sum ≤ maxTotal →
        result.chain? = some result.outcomes ∧
        Chain.total result.outcomes = (result.outcomes.map Outcome.exactSigned).sum ∧
        ∀ others, others.Perm result.outcomes →
          Chain.total others = Chain.total result.outcomes := by
  rcases drawn : (expression.throws.mapM source.draw).run state with ⟨draws, final⟩
  have accurate := Expression.accurate_resultOf parsed inRange drawn (ofWord word).text
  refine ⟨_, final, run_solve parsed drawn, accurate, ?_⟩
  rintro links rfl few
  have small := Chain.small_of_accurate accurate few
  exact ⟨rfl, Chain.total_eq_sum small, fun others same => Chain.total_perm same small⟩

/-- Dice beside a modifier that is almost the largest total, with the draws `12`, `1` and `18`. -/
theorem Query.solve_totals_exact_large_modifier :
    let feed : Feed := .cycle #[12, 1, 18] (by decide) 0
    let word := "2f+9223372036854775000-1r"
    ∃ (expression : Expression) (links : List Link) (result : Result) (final : Feed),
      (ofWord word).parse {} = .ok (some expression) ∧ Feed.source.InRange feed ∧
      expression = .chain links ∧ (links.map Link.magnitude).sum ≤ maxTotal ∧
      ((ofWord word).solve {} Feed.source).run feed = (.ok (some result), final) ∧
      Chain.total result.outcomes = 9223372036854774992 ∧
      Chain.total result.outcomes.reverse = 9223372036854774992 := by
  intro feed word
  let first : Term := {
    repeats := none
    spec := ⟨2, .f, none, some 9223372036854775000⟩
    source := "2f+9223372036854775000"
    length := 22 }
  let second : Term := { repeats := none, spec := ⟨1, .r, none, none⟩, source := "1r", length := 2 }
  have parsed : (ofWord word).parse {} = .ok (some (.chain [⟨.plus, first⟩, ⟨.minus, second⟩])) := by
    decide +kernel
  have small : ([⟨.plus, first⟩, ⟨.minus, second⟩].map Link.magnitude).sum ≤ maxTotal := by decide
  obtain ⟨result, final, solved, -, exact⟩ := solve_totals_exact parsed feed.inRange_source
  obtain ⟨-, -, reordered⟩ := exact _ rfl small
  have drawn : ((Expression.chain [⟨.plus, first⟩, ⟨.minus, second⟩]).throws.mapM
      Feed.source.draw).run feed = ([12, 1, 18], .cycle #[12, 1, 18] (by decide) 3) := rfl
  have thrown := congrArg Prod.fst (solved.symm.trans (run_solve parsed drawn))
  obtain rfl := Option.some.inj (Except.ok.inj thrown)
  refine ⟨_, _, _, final, parsed, feed.inRange_source, rfl, small, solved, rfl, ?_⟩
  exact reordered _ (List.reverse_perm _)

end DiceWords
