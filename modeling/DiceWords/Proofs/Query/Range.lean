import DiceWords.Proofs.Expression.Printing
import DiceWords.Proofs.Query.Draws
import DiceWords.Source.Feed

/-! # Rolls in range

A source is in range when, whatever is thrown from a state on, each draw lies between the ends of
its throw (`Source.InRange`); feeds are (`Feed.inRange_source`). Dealt out to the terms that threw
them, the draws of such a source are sides of the terms' own dice (`Source.InRange.fair_of_mem`).
The numbers of a term are in range, too, when it has been read (`Expression.fits_of_parse`). -/

namespace DiceWords

/-! ## Draws -/

/-- The draw lies between the ends of the throw. -/
def Throw.Covers (throw : Throw) (draw : Int) : Prop :=
  throw.low ≤ draw ∧ draw ≤ throw.high

/-- From the state on, each draw of the source lies between the ends of its throw. -/
def Source.InRange {σ : Type} (source : Source σ) (state : σ) : Prop :=
  ∀ throws : List Throw, (∀ throw ∈ throws, throw.low ≤ throw.high) →
    List.Forall₂ Throw.Covers throws ((throws.mapM source.draw).run state).1

/-- The bounds of a throw are in order. -/
theorem Die.ordered_throw (die : Die) : die.throw.low ≤ die.throw.high := by
  cases die <;> decide

/-- So are those of all throws of a term. -/
theorem Link.ordered_throws (link : Link) :
    ∀ throw ∈ link.throws, throw.low ≤ throw.high := by
  intro throw member
  rw [List.eq_of_mem_replicate member]
  exact link.term.spec.die.ordered_throw

namespace Source

variable {σ : Type} {source : Source σ} {state final : σ} {throws : List Throw} {draws : List Int}

/-- A source that keeps to the ranges in every state is in range. -/
theorem inRange_of_forall_draw
    (covers : ∀ (throw : Throw) (state : σ), throw.low ≤ throw.high →
      throw.Covers ((source.draw throw).run state).1) (state : σ) : source.InRange state := by
  intro throws ordered
  induction throws generalizing state with
  | nil => exact .nil
  | cons throw rest ih =>
      obtain ⟨first, others⟩ := List.forall_mem_cons.mp ordered
      rw [run_mapM_cons]
      exact .cons (covers throw state first) (ih _ others)

/-- **A source in range answers each throw within its bounds.** -/
theorem InRange.covers (inRange : source.InRange state)
    (ordered : ∀ throw ∈ throws, throw.low ≤ throw.high)
    (drawn : (throws.mapM source.draw).run state = (draws, final)) :
    List.Forall₂ Throw.Covers throws draws := by
  have covered := inRange throws ordered
  rwa [drawn] at covered

/-- What is drawn leaves the source in range. -/
theorem InRange.after (inRange : source.InRange state)
    (ordered : ∀ throw ∈ throws, throw.low ≤ throw.high)
    (drawn : (throws.mapM source.draw).run state = (draws, final)) : source.InRange final := by
  intro more orderedToo
  have whole := inRange (throws ++ more) (List.forall_mem_append.mpr ⟨ordered, orderedToo⟩)
  rcases others : (more.mapM source.draw).run final with ⟨behind, last⟩
  simp only [run_mapM_append, drawn, others] at whole
  have behind := List.forall₂_drop throws.length whole
  rwa [List.drop_left, ← length_eq_of_run_mapM drawn, List.drop_left] at behind

end Source

/-- **A feed is in range.** -/
theorem Feed.inRange_source (feed : Feed) : Feed.source.InRange feed := by
  apply Source.inRange_of_forall_draw
  intro throw feed ordered
  exact fold_mem ordered feed.next.1

/-! ## Terms -/

/-- Draws that the dice of a term can come up with: one for each die, and each a side of it. -/
structure Link.Fair (link : Link) (draws : List Int) : Prop where
  count : draws.length = link.term.spec.amount
  sides : ∀ draw ∈ draws, 1 ≤ draw ∧ draw ≤ link.term.spec.die.sides

/-- Draws within the bounds of the throws are fair. -/
theorem Link.fair_of_covers {link : Link} {draws : List Int}
    (covers : List.Forall₂ Throw.Covers link.throws draws) : link.Fair draws where
  count := by
    rw [← covers.length_eq]
    exact List.length_replicate
  sides := by
    intro draw member
    obtain ⟨index, inside, rfl⟩ := List.getElem_of_mem member
    have thrown : index < link.throws.length := covers.length_eq ▸ inside
    have covered := covers.get thrown inside
    simp only [List.get_eq_getElem, Link.throws, Spec.throws, List.getElem_replicate] at covered
    exact covered

/-- **A source in range draws sides of dice.** Whatever terms are thrown one after another, each
gets draws that its dice can come up with. -/
theorem Source.InRange.fair_of_mem {σ : Type} {source : Source σ} {state final : σ}
    (inRange : source.InRange state) {parts : List (Link × List Int)}
    (counts : ∀ part ∈ parts, part.2.length = part.1.term.spec.amount)
    (drawn : ((parts.flatMap fun part => part.1.throws).mapM source.draw).run state =
      (parts.flatMap Prod.snd, final)) :
    ∀ part ∈ parts, part.1.Fair part.2 := by
  induction parts generalizing state with
  | nil => exact List.forall_mem_nil _
  | cons part rest ih =>
      obtain ⟨count, counts⟩ := List.forall_mem_cons.mp counts
      rcases first : (part.1.throws.mapM source.draw).run state with ⟨own, between⟩
      rcases others : ((rest.flatMap fun part => part.1.throws).mapM source.draw).run between with
        ⟨behind, last⟩
      simp only [List.flatMap_cons, run_mapM_append, first, others] at drawn
      obtain ⟨dealt, rfl⟩ := Prod.mk.inj drawn
      have enough : own.length = part.2.length := by
        rw [length_eq_of_run_mapM first, count]
        exact List.length_replicate
      obtain ⟨rfl, rfl⟩ := List.append_inj dealt enough
      have ordered := part.1.ordered_throws
      exact List.forall_mem_cons.mpr
        ⟨Link.fair_of_covers (inRange.covers ordered first),
          ih (inRange.after ordered first) counts others⟩

/-- The draws of one expression, dealt out to its terms. -/
theorem Link.flatMap_throws_deal (links : List Link) (draws : List Int) :
    (deal links draws).flatMap (fun part => part.1.throws) = links.flatMap throws := by
  rw [← map_fst_deal links draws, List.flatMap_map, map_fst_deal]

/-- With such draws each face shows a value of its own die. -/
theorem Link.Fair.value_mem_range {link : Link} {draws : List Int} (fair : link.Fair draws) :
    ∀ value ∈ (link.outcomeOf draws).rolls,
      link.term.spec.die.lowest ≤ value ∧ value ≤ link.term.spec.die.highest :=
  (link.shows_outcomeOf fair.count).inRange fair.sides

/-! ## Numbers -/

open Text (Numeral value)

/-- A single digit stands for nine at most. -/
theorem Text.Numeral.value_le_nine {digits : List Char} (numeral : Numeral digits)
    (single : digits.length = 1) : value digits ≤ 9 := by
  obtain ⟨c, rfl⟩ := List.length_eq_one_iff.mp single
  have bounds : 48 ≤ c.toNat ∧ c.toNat ≤ 57 :=
    Char.isDigit_iff_toNat.mp (numeral.isDigit c List.mem_cons_self)
  have zero : '0'.toNat = 48 := rfl
  rw [value, Nat.ofDigitChars_cons, Nat.ofDigitChars_nil, zero]
  omega

/-- Clauses with their numbers in range ask for numbers in range. -/
theorem Clauses.Allowed.fits {options : Options} {clauses : Clauses}
    (allowed : clauses.Allowed options) (numeric : clauses.Numeric) :
    clauses.spec.Fits options where
  amount := allowed.amount
  singleDigit single := numeric.amount.value_le_nine (allowed.singleDigit single)
  keep := Option.forall_mem_map.mpr allowed.keep
  modifier := Option.forall_mem_map.mpr fun clause written => by
    have small := allowed.modifier clause written
    unfold maxTotal at small
    unfold minTotal maxTotal
    cases clause.1 <;> simp only [Sign.number] <;> omega

/-- **The terms of a word that was read have their numbers in range.** -/
theorem Expression.fits_of_parse {options : Options} {word : String} {expression : Expression}
    (parsed : parse options word = .ok (some expression)) :
    ∀ link ∈ expression.links, link.term.spec.Fits options := by
  obtain ⟨form, ⟨grammatical, -⟩, allowed, rfl⟩ := exists_form_of_parse parsed
  cases form with
  | batch digits clauses =>
      intro link member
      rw [List.eq_of_mem_replicate member]
      exact allowed.2.fits grammatical.2.toNumeric
  | chain first rest =>
      obtain ⟨isTerm, terms⟩ := grammatical
      obtain ⟨-, fits, othersFit⟩ := allowed
      refine List.forall_mem_cons.mpr ⟨fits.fits isTerm.toNumeric, List.forall_mem_map.mpr ?_⟩
      exact fun part listed => (othersFit part listed).fits (terms part listed).toNumeric

end DiceWords
