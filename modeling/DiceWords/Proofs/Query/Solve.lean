import DiceWords.Proofs.Expression.Reading
import DiceWords.Query

/-! # Solving a word that is an expression

A word that is an expression is asked for as it stands (`Query.ofWord_of_parse`). Solving it throws
its terms in the order in which they are written and hands the state of the source on from each to
the next, so a chain can be thrown part by part (`run_mapM_append`). -/

namespace DiceWords

/-- A word that is an expression is its own lowercase form without blanks. -/
theorem Query.ofWord_of_parse {options : Options} {word : String} {expression : Expression}
    (parsed : Expression.parse options word = .ok (some expression)) :
    Query.ofWord word = ⟨word⟩ := by
  rw [Query.ofWord, Text.lowercase_trim_of_plain (Expression.mem_plainChars_of_parse parsed),
    String.ofList_toList]

variable {σ : Type}

/-- A list of actions can be run part by part, with the state handed on. -/
theorem run_mapM_append {α β : Type} (action : α → StateM σ β) (first second : List α) (state : σ) :
    ((first ++ second).mapM action).run state =
      let (results, between) := (first.mapM action).run state
      let (more, final) := (second.mapM action).run between
      (results ++ more, final) := by
  rw [List.mapM_append]
  rfl

/-- A list is worked off from the left, each action from the state that the one before has left. -/
theorem run_mapM_cons {α β : Type} (action : α → StateM σ β) (first : α) (rest : List α) (state : σ) :
    ((first :: rest).mapM action).run state =
      let (result, between) := (action first).run state
      let (results, final) := (rest.mapM action).run between
      (result :: results, final) := by
  rw [List.mapM_cons]
  rfl

/-- Throw the links of a chain in order. -/
def rollLinks (source : Source σ) (links : List Link) : StateM σ (List Outcome) :=
  links.mapM fun link => link.term.roll source link.sign

/-- Terms are thrown one after another, so the first ones of a list come first. -/
theorem run_rollLinks_append (source : Source σ) (links others : List Link) (state : σ) :
    (rollLinks source (links ++ others)).run state =
      let (outcomes, between) := (rollLinks source links).run state
      let (more, final) := (rollLinks source others).run between
      (outcomes ++ more, final) :=
  run_mapM_append _ links others state

/-- The sign of the first link changes the sign of the first outcome and nothing else. -/
theorem run_rollLinks_sign (source : Source σ) (sign : Sign) (link : Link) (rest : List Link)
    (state : σ) :
    ∃ outcome behind final,
      (rollLinks source (link :: rest)).run state = (outcome :: behind, final) ∧
        (rollLinks source ({ link with sign } :: rest)).run state =
          ({ outcome with sign } :: behind, final) := by
  have split (first : Link) : first :: rest = [first] ++ rest := rfl
  rw [split, split { link with sign }, run_rollLinks_append, run_rollLinks_append]
  exact ⟨_, _, _, rfl, rfl⟩

/-- Solving a chain throws its links. -/
theorem Query.run_solve_chain {options : Options} {word : String} {links : List Link}
    (parsed : Expression.parse options word = .ok (some (.chain links))) (source : Source σ)
    (state : σ) :
    ((Query.ofWord word).solve options source).run state =
      let (outcomes, final) := (rollLinks source links).run state
      (.ok (some { kind := .chain, query := word, outcomes }), final) := by
  rw [Query.ofWord_of_parse parsed]
  delta Query.solve Query.parse
  rw [parsed]
  rfl

end DiceWords
