import DiceWords.Proofs.Keep
import DiceWords.Proofs.Query.Solve
import Mathlib.Algebra.Ring.Int.Defs
import Mathlib.Data.List.Forall2
import Mathlib.Data.List.SplitLengths

/-! # Every die is drawn once

What an expression throws can be told before it is thrown: one throw for each die of each term, the
terms in the order in which they are written and the term of a batch again and again
(`Expression.throws`). Rolling the expression makes these throws and no others, and what comes out
is a function of the draws alone (`Expression.run_roll`): the draws are dealt out to the terms from
the left, to each as many as it has dice. So each die is drawn once and ends up in the outcome of
its own term (`Query.solve_draws_every_die`). -/

namespace DiceWords

/-! ## Throws and the faces they show -/

namespace Spec

/-- One throw for each die. -/
def throws (spec : Spec) : List Throw :=
  List.replicate spec.amount spec.die.throw

/-- What the dice show when they are drawn like this. -/
def facesOf (spec : Spec) (draws : List Int) : List Face :=
  let faces := draws.map fun draw => Face.ofDie spec.die (draw - spec.die.offset)
  match spec.keep with
  | some keep => keep.apply faces
  | none => faces

end Spec

namespace Link

def throws (link : Link) : List Throw :=
  link.term.spec.throws

/-- What the term shows when its dice are drawn like this. -/
def outcomeOf (link : Link) (draws : List Int) : Outcome where
  faces := link.term.spec.facesOf draws
  modifier := link.term.spec.modifier
  source := link.term.source
  sign := link.sign

/-- Draws dealt out to terms from the left, to each as many as it has dice. -/
def deal (links : List Link) (draws : List Int) : List (Link × List Int) :=
  links.zip ((links.map fun link => link.term.spec.amount).splitLengths draws)

/-- Every term is dealt its draws. -/
theorem map_fst_deal (links : List Link) (draws : List Int) :
    (deal links draws).map Prod.fst = links :=
  List.map_fst_zip (by simp)

/-- The first term gets as many draws as it has dice, and the others get the rest. -/
theorem deal_cons (link : Link) (rest : List Link) {own others : List Int}
    (enough : own.length = link.term.spec.amount) :
    deal (link :: rest) (own ++ others) = (link, own) :: deal rest others := by
  simp [deal, ← enough]

end Link

namespace Expression

/-- The terms that are thrown, in order and with their signs. -/
def links : Expression → List Link
  | batch times term => List.replicate times { sign := .plus, term }
  | chain links => links

def kind : Expression → Result.Kind
  | batch _ _ => .batch
  | chain _ => .chain

/-- The throws of the expression, in order. -/
def throws (expression : Expression) : List Throw :=
  expression.links.flatMap Link.throws

/-- What the expression shows when its dice are drawn like this. -/
def resultOf (expression : Expression) (query : String) (draws : List Int) : Result where
  kind := expression.kind
  query := query
  outcomes := (Link.deal expression.links draws).map fun part => part.1.outcomeOf part.2

/-- The number of dice is counted exactly up to the largest count. -/
theorem faces_eq_min_length_throws (expression : Expression) :
    expression.faces = min (2 ^ 64 - 1) expression.throws.length := by
  have counted : expression.faces = saturateCount expression.throws.length := by
    cases expression with
    | batch times term =>
        simp [faces, throws, links, Link.throws, Spec.throws]
    | chain links =>
        simp [faces, throws, Expression.links, Link.throws, Spec.throws, List.length_flatMap,
          List.sum_eq_foldr]
  rw [counted, saturateCount, Nat.min_comm]
  rfl

end Expression

/-! ## Rolling is drawing -/

section

variable {σ : Type} {α β : Type}

/-- Each action of a list has one result. -/
theorem length_eq_of_run_mapM {action : α → StateM σ β} {list : List α} {state final : σ}
    {results : List β} (ran : (list.mapM action).run state = (results, final)) :
    results.length = list.length := by
  induction list generalizing state results with
  | nil =>
      cases ran
      rfl
  | cons first rest ih =>
      rcases own : (action first).run state with ⟨result, between⟩
      rcases others : (rest.mapM action).run between with ⟨behind, last⟩
      simp only [run_mapM_cons, own, others] at ran
      cases ran
      rw [List.length_cons, List.length_cons, ih others]

/-- A source that keeps a record draws as before, and the record grows by what is thrown. -/
theorem run_mapM_recording {source : Source σ} {throws : List Throw} {state final : σ}
    {draws : List Int} (drawn : (throws.mapM source.draw).run state = (draws, final))
    (thrown : Array Throw) :
    (throws.mapM source.recording.draw).run (state, thrown) =
      (draws, final, thrown ++ throws.toArray) := by
  induction throws generalizing state draws thrown with
  | nil =>
      cases drawn
      rw [Array.append_empty]
      rfl
  | cons throw rest ih =>
      rcases first : (source.draw throw).run state with ⟨draw, between⟩
      rcases others : (rest.mapM source.draw).run between with ⟨behind, last⟩
      simp only [run_mapM_cons, first, others] at drawn
      cases drawn
      have recorded : (source.recording.draw throw).run (state, thrown) =
          (((source.draw throw).run state).1, ((source.draw throw).run state).2,
            thrown.push throw) := rfl
      rw [first] at recorded
      have growth : thrown.push throw ++ rest.toArray = thrown ++ (throw :: rest).toArray := by
        simp
      simp only [run_mapM_cons, recorded, ih others, growth]

/-- **A term shows its own draws.** -/
theorem Link.run_roll {source : Source σ} {link : Link} {state final : σ} {draws : List Int}
    (drawn : (link.throws.mapM source.draw).run state = (draws, final)) :
    (link.term.roll source link.sign).run state = (link.outcomeOf draws, final) := by
  have rolled : (link.term.roll source link.sign).run state =
      (link.outcomeOf ((link.throws.mapM source.draw).run state).1,
        ((link.throws.mapM source.draw).run state).2) := rfl
  rw [rolled, drawn]

/-- **Terms show the draws that are dealt to them.** -/
theorem run_rollLinks {source : Source σ} {links : List Link} {state final : σ}
    {draws : List Int}
    (drawn : ((links.flatMap Link.throws).mapM source.draw).run state = (draws, final)) :
    (rollLinks source links).run state =
      ((Link.deal links draws).map fun part => part.1.outcomeOf part.2, final) := by
  induction links generalizing state draws with
  | nil =>
      cases drawn
      rfl
  | cons link rest ih =>
      rcases first : (link.throws.mapM source.draw).run state with ⟨own, between⟩
      rcases others : ((rest.flatMap Link.throws).mapM source.draw).run between with ⟨behind, last⟩
      simp only [List.flatMap_cons, run_mapM_append, first, others] at drawn
      cases drawn
      have enough : own.length = link.term.spec.amount := by
        simpa [Link.throws, Spec.throws] using length_eq_of_run_mapM first
      have rolled : (rollLinks source rest).run between = _ := ih others
      rw [rollLinks] at rolled ⊢
      simp only [run_mapM_cons, Link.run_roll first, rolled, Link.deal_cons link rest enough,
        List.map_cons]

end

/-- **A roll is a function of its draws.** -/
theorem Expression.run_roll {σ : Type} {source : Source σ} {expression : Expression}
    {state final : σ} {draws : List Int}
    (drawn : (expression.throws.mapM source.draw).run state = (draws, final)) (query : String) :
    (expression.roll source query).run state = (expression.resultOf query draws, final) := by
  have rolled : (expression.roll source query).run state =
      ({ kind := expression.kind, query,
         outcomes := ((rollLinks source expression.links).run state).1 },
        ((rollLinks source expression.links).run state).2) := by
    cases expression with
    | batch times term =>
        have signed : (batch times term).links =
            (List.replicate times term).map fun term => { sign := .plus, term } :=
          List.map_replicate.symm
        rw [signed, rollLinks, List.mapM_map]
        rfl
    | chain links => rfl
  rw [rolled, run_rollLinks drawn]
  rfl

/-- A word that is an expression is rolled. -/
theorem Query.run_solve {σ : Type} {options : Options} {query : Query} {expression : Expression}
    (parsed : query.parse options = .ok (some expression)) {source : Source σ} {state final : σ}
    {draws : List Int}
    (drawn : (expression.throws.mapM source.draw).run state = (draws, final)) :
    (query.solve options source).run state =
      (.ok (some (expression.resultOf query.text draws)), final) := by
  delta solve roll
  rw [parsed]
  simp only [StateT.run_bind, Expression.run_roll drawn]
  rfl

/-! ## What an outcome shows -/

/-- The sum of an outcome is that of its faces that count. -/
theorem Outcome.sum_eq_sum_kept (outcome : Outcome) :
    outcome.sum = ((outcome.faces.filter Face.kept).map Face.value).sum :=
  outcome.sum_eq.trans List.sum_eq_foldr.symm

/-- An outcome shows a term with its sign, and its dice as they were drawn: in this order without
a keep clause, and in ascending order with one. -/
structure Outcome.Shows (outcome : Outcome) (link : Link) (draws : List Int) : Prop where
  source : outcome.source = link.term.source
  sign : outcome.sign = link.sign
  modifier : outcome.modifier = link.term.spec.modifier
  count : draws.length = link.term.spec.amount
  values : outcome.rolls.Perm (draws.map (· - link.term.spec.die.offset))
  drawOrder : link.term.spec.keep = none →
    outcome.rolls = draws.map (· - link.term.spec.die.offset)
  ascending : link.term.spec.keep.isSome → outcome.rolls.Pairwise (· ≤ ·)
  inRange : (∀ draw ∈ draws, 1 ≤ draw ∧ draw ≤ link.term.spec.die.sides) →
    ∀ value ∈ outcome.rolls, link.term.spec.die.lowest ≤ value ∧ value ≤ link.term.spec.die.highest
  sum : outcome.sum = ((outcome.faces.filter Face.kept).map Face.value).sum

/-- A keep clause may change the order of the draws but not their values. -/
theorem Spec.map_value_facesOf_perm (spec : Spec) (draws : List Int) :
    ((spec.facesOf draws).map Face.value).Perm (draws.map (· - spec.die.offset)) := by
  have thrown : (draws.map fun draw => Face.ofDie spec.die (draw - spec.die.offset)).map
      Face.value = draws.map (· - spec.die.offset) := by
    rw [List.map_map]
    rfl
  rw [← thrown, facesOf]
  cases spec.keep with
  | none => exact .refl _
  | some keep => exact keep.map_value_apply_perm _

/-- **An outcome shows its term and its draws.** -/
theorem Link.shows_outcomeOf (link : Link) {draws : List Int}
    (count : draws.length = link.term.spec.amount) : (link.outcomeOf draws).Shows link draws where
  source := rfl
  sign := rfl
  modifier := rfl
  count := count
  values := link.term.spec.map_value_facesOf_perm draws
  drawOrder := by
    intro all
    simp only [Outcome.rolls, outcomeOf, Spec.facesOf, all, List.map_map]
    rfl
  ascending := by
    intro clause
    obtain ⟨keep, written⟩ := Option.isSome_iff_exists.mp clause
    simp only [Outcome.rolls, outcomeOf, Spec.facesOf, written]
    exact keep.pairwise_map_value_apply _
  inRange := by
    intro inRange value member
    have drawn := (link.term.spec.map_value_facesOf_perm draws).mem_iff.mp member
    obtain ⟨draw, listed, rfl⟩ := List.mem_map.mp drawn
    obtain ⟨low, high⟩ := inRange draw listed
    rw [Die.lowest, Die.highest]
    omega
  sum := (link.outcomeOf draws).sum_eq_sum_kept

/-- Dealing out as many draws as there are dice leaves none over and gives each term its own. -/
theorem Link.deal_of_length {links : List Link} {draws : List Int}
    (count : draws.length = (links.flatMap throws).length) :
    (deal links draws).flatMap Prod.snd = draws ∧
      ∀ part ∈ deal links draws, part.2.length = part.1.term.spec.amount := by
  induction links generalizing draws with
  | nil =>
      obtain rfl : draws = [] := List.eq_nil_of_length_eq_zero count
      exact ⟨rfl, fun part member => nomatch member⟩
  | cons link rest ih =>
      have total : draws.length = link.term.spec.amount + (rest.flatMap throws).length := by
        simpa [throws, Spec.throws] using count
      obtain ⟨own, others, rfl, enough⟩ : ∃ own others, draws = own ++ others ∧
          own.length = link.term.spec.amount :=
        ⟨draws.take link.term.spec.amount, draws.drop link.term.spec.amount,
          (List.take_append_drop _ _).symm, List.length_take_of_le (by omega)⟩
      rw [List.length_append, enough] at total
      obtain ⟨flat, lengths⟩ := ih (Nat.add_left_cancel total)
      rw [deal_cons link rest enough, List.flatMap_cons, flat]
      exact ⟨rfl, List.forall_mem_cons.mpr ⟨enough, lengths⟩⟩

/-- **Every die is drawn once.** Solving a word that is an expression makes the throws of the
expression and no others, and each outcome shows its own term with its own part of the draws. Any
other word throws nothing. The count of dice is that of the throws for every expression, whether or
not a word is read as it. -/
theorem Query.solve_draws_every_die {σ : Type} (options : Options) (source : Source σ)
    (word : String) (state : σ) :
    (match (Query.ofWord word).parse options with
      | .ok (some expression) =>
        ∃ (result : Result) (parts : List (Link × List Int)) (final : σ),
          ((Query.ofWord word).solve options source.recording).run (state, #[]) =
            (.ok (some result), final, expression.throws.toArray) ∧
          ((Query.ofWord word).solve options source).run state = (.ok (some result), final) ∧
          (expression.throws.mapM source.draw).run state = (parts.flatMap Prod.snd, final) ∧
          parts.map Prod.fst = expression.links ∧
          List.Forall₂ (fun outcome part => outcome.Shows part.1 part.2) result.outcomes parts
      | .ok none =>
        ((Query.ofWord word).solve options source.recording).run (state, #[]) =
          (.ok none, state, #[])
      | .error error =>
        ((Query.ofWord word).solve options source.recording).run (state, #[]) =
          (.error error, state, #[])) ∧
    ∀ (expression : Expression) (query : Query),
      ((query.roll source.recording expression).run (state, #[])).2.2 =
        expression.throws.toArray ∧
      expression.faces = min (2 ^ 64 - 1) expression.throws.length := by
  constructor
  · rcases parsed : (Query.ofWord word).parse options with error | _ | expression
    · delta solve
      rw [parsed]
      rfl
    · delta solve
      rw [parsed]
      rfl
    · rcases drawn : (expression.throws.mapM source.draw).run state with ⟨draws, final⟩
      obtain ⟨flat, lengths⟩ := Link.deal_of_length (length_eq_of_run_mapM drawn)
      have recorded := run_mapM_recording drawn #[]
      rw [Array.empty_append] at recorded
      refine ⟨_, Link.deal expression.links draws, final, run_solve parsed recorded,
        run_solve parsed drawn, ?_, ?_, ?_⟩
      · rw [flat, drawn]
      · exact Link.map_fst_deal expression.links draws
      · rw [Expression.resultOf, List.forall₂_map_left_iff, List.forall₂_same]
        exact fun part member => part.1.shows_outcomeOf (lengths part member)
  · intro expression query
    rcases drawn : (expression.throws.mapM source.draw).run state with ⟨draws, final⟩
    have recorded := run_mapM_recording drawn #[]
    rw [Query.roll, Expression.run_roll recorded, Array.empty_append]
    exact ⟨rfl, expression.faces_eq_min_length_throws⟩

end DiceWords
