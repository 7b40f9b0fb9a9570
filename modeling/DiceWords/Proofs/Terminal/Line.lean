import DiceWords.Proofs.Expression.Refusal
import DiceWords.Proofs.Query.Draws
import DiceWords.Terminal.Line

/-! # What a line prints

Rolling a line rolls its words from the left, each from the source as the words before it have left
it. Whether a word prints a result, an error or nothing is settled by how it is read, before any die
is thrown (`forall₂_prints_of_run_rollWords`); what it throws is settled there, too, so a record of
the throws can be told in advance (`run_rollLine_recording`). -/

namespace DiceWords

namespace Query

variable {options : Options} {query : Query}

/-- The throws that solving the query makes. -/
def throws (options : Options) (query : Query) : List Throw :=
  match query.parse options with
  | .ok (some expression) => expression.throws
  | _ => []

/-- What solving the query yields when its dice are drawn like this. -/
def answerOf (options : Options) (query : Query) (draws : List Int) :
    Except Error (Option Result) :=
  (query.parse options).map fun found =>
    found.map fun expression => expression.resultOf query.text draws

section

variable {σ : Type} {source : Source σ} {state final : σ}

/-- A plain word leaves the source as it is. -/
theorem run_solve_plain (parsed : query.parse options = .ok none) :
    (query.solve options source).run state = (.ok none, state) := by
  delta solve
  rw [parsed]
  rfl

/-- So does a word that is refused. -/
theorem run_solve_error {error : Error} (parsed : query.parse options = .error error) :
    (query.solve options source).run state = (.error error, state) := by
  delta solve
  rw [parsed]
  rfl

/-- Solving any word is a function of its draws. -/
theorem run_solve_answerOf {draws : List Int}
    (drawn : ((query.throws options).mapM source.draw).run state = (draws, final)) :
    (query.solve options source).run state = (query.answerOf options draws, final) := by
  unfold throws at drawn
  unfold answerOf
  rcases parsed : query.parse options with error | _ | expression
  · rw [parsed] at drawn
    cases drawn
    exact run_solve_error parsed
  · rw [parsed] at drawn
    cases drawn
    exact run_solve_plain parsed
  · rw [parsed] at drawn
    exact run_solve parsed drawn

end

end Query

namespace Terminal

variable {screen : Screen} {σ : Type} {source : Source σ} {state final : σ}

/-- The throws that rolling some words makes. -/
def throws (words : List String) : List Throw :=
  words.flatMap fun word => (Query.ofWord word).throws {}

/-- Roll some words, one after another. -/
def rollWords (source : Source σ) (words : List String) :
    StateM σ (List (Except Error (Option Result))) :=
  words.mapM (rollWord source)

/-- What some answers print. -/
def printed (screen : Screen) (answers : List (Except Error (Option Result))) : List Printed :=
  if (answers.filterMap (answer screen)).isEmpty then [noDice screen]
  else answers.filterMap (answer screen)

/-- A line prints what its words print. -/
theorem run_rollLine (screen : Screen) (source : Source σ) (line : String) (state : σ) :
    (rollLine screen source line).run state =
      (printed screen ((rollWords source (Text.words line)).run state).1,
        ((rollWords source (Text.words line)).run state).2) :=
  rfl

/-- What a word may print: it hangs on how the word is read, and on the draws only within a
result. -/
inductive Prints (screen : Screen) (word : String) : Option Printed → Prop
  | result {expression : Expression} (draws : List Int)
      (parsed : (Query.ofWord word).parse {} = .ok (some expression)) :
      Prints screen word (some (.output
        (screen.render (expression.resultOf (Query.ofWord word).text draws).text)))
  | plain (parsed : (Query.ofWord word).parse {} = .ok none) : Prints screen word none
  | error {error : Error} (parsed : (Query.ofWord word).parse {} = .error error) :
      Prints screen word (some (.error (screen.paint .boldRed error.text)))

/-- Whatever is drawn, a word prints what it may. -/
theorem prints_answerOf (screen : Screen) (word : String) (draws : List Int) :
    Prints screen word (answer screen ((Query.ofWord word).answerOf {} draws)) := by
  unfold Query.answerOf
  rcases parsed : (Query.ofWord word).parse {} with error | _ | expression
  · exact .error parsed
  · exact .plain parsed
  · exact .result draws parsed

/-- The words of a line print one after another. -/
theorem forall₂_prints_of_run_rollWords (screen : Screen) {words : List String}
    {answers : List (Except Error (Option Result))}
    (ran : (rollWords source words).run state = (answers, final)) :
    List.Forall₂ (Prints screen) words (answers.map (answer screen)) := by
  induction words generalizing state final answers with
  | nil =>
      cases ran
      exact .nil
  | cons word words ih =>
      rcases drawn : (((Query.ofWord word).throws {}).mapM source.draw).run state with
        ⟨draws, between⟩
      have first : (rollWord source word).run state = _ := Query.run_solve_answerOf drawn
      rcases others : (rollWords source words).run between with ⟨behind, last⟩
      rw [rollWords] at ran others
      simp only [run_mapM_cons, first, others] at ran
      cases ran
      exact .cons (prints_answerOf screen word draws) (ih others)

/-! ## A line without dice -/

/-- On a screen that shows colors, no error looks like the notice that there are no dice. -/
theorem answer_ne_noDice (colors : screen.Colors) (reply : Except Error (Option Result)) :
    answer screen reply ≠ some (noDice screen) := by
  rcases reply with error | _ | result
  · intro same
    have texts := congrArg String.toList (Printed.error.inj (Option.some.inj same))
    obtain ⟨errorRest, red⟩ := colors.starts .boldRed error.text
    obtain ⟨noticeRest, yellow⟩ := colors.starts .yellow "repl: info: no dice in line"
    rw [red, yellow] at texts
    have third := congrArg (fun text => text[2]?) texts
    exact absurd third (by simp [Style.start, control, Style.parameters])
  · exact nofun
  · exact nofun

/-- The notice is printed exactly when nothing else is. -/
theorem printed_eq_noDice_iff (colors : screen.Colors)
    (answers : List (Except Error (Option Result))) :
    printed screen answers = [noDice screen] ↔ answers.filterMap (answer screen) = [] := by
  unfold printed
  by_cases silent : answers.filterMap (answer screen) = []
  · rw [silent]
    exact iff_of_true rfl rfl
  · rw [if_neg (by simpa using silent)]
    refine iff_of_false ?_ silent
    intro same
    have member : noDice screen ∈ answers.filterMap (answer screen) := by
      rw [same]
      exact List.mem_singleton_self (noDice screen)
    obtain ⟨reply, -, entry⟩ := List.mem_filterMap.mp member
    exact answer_ne_noDice colors reply entry

/-! ## What is thrown -/

/-- A source that keeps a record gives the same answers, and what is thrown is known before. -/
theorem run_rollWords_recording {words : List String}
    {answers : List (Except Error (Option Result))}
    (ran : (rollWords source words).run state = (answers, final)) (thrown : Array Throw) :
    (rollWords source.recording words).run (state, thrown) =
      (answers, final, thrown ++ (throws words).toArray) := by
  induction words generalizing state final answers thrown with
  | nil =>
      cases ran
      exact Prod.ext rfl (Prod.ext rfl Array.append_empty.symm)
  | cons word words ih =>
      rcases drawn : (((Query.ofWord word).throws {}).mapM source.draw).run state with
        ⟨draws, between⟩
      have first : (rollWord source word).run state = _ := Query.run_solve_answerOf drawn
      have recorded : (rollWord source.recording word).run (state, thrown) = _ :=
        Query.run_solve_answerOf (run_mapM_recording drawn thrown)
      rcases others : (rollWords source words).run between with ⟨behind, last⟩
      have rest := ih others (thrown ++ ((Query.ofWord word).throws {}).toArray)
      rw [rollWords] at ran others rest ⊢
      simp only [run_mapM_cons, first, others] at ran
      cases ran
      simp only [run_mapM_cons, recorded, rest, throws, List.flatMap_cons]
      simp

/-- A source that keeps a record prints the same for a line. -/
theorem run_rollLine_recording {line : String} {entries : List Printed}
    (ran : (rollLine screen source line).run state = (entries, final)) :
    (rollLine screen source.recording line).run (state, #[]) =
      (entries, final, (throws (Text.words line)).toArray) := by
  rcases rolled : (rollWords source (Text.words line)).run state with ⟨answers, last⟩
  rw [run_rollLine, rolled] at ran
  cases ran
  rw [run_rollLine, run_rollWords_recording rolled, Array.empty_append]

end Terminal

end DiceWords
