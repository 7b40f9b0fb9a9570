import DiceWords.Proofs.Chat.Limits
import DiceWords.Proofs.Text.Words
import Mathlib.Data.List.Forall2

/-! # Which words are answered

A word that asks for dice is answered with a line of its own unless a limit has been met before it.
The length of a reply is counted in UTF-8 and with a line end for each line, so that limit is not
where a message is cut, which counts characters. Apart from the budget, all words that ask are
answered exactly when the lines in front of each of them are short enough in that first count
(`scan_answers_iff`); a reply that is short in characters may still lack words
(`scan_leaves_words_unanswered`). -/

namespace DiceWords.Chat

/-- Whether a word that is read like this is to be answered: as an expression, or as an error that
its writer can mend. -/
def isAnswerable : Except Error (Option Expression) → Bool
  | .ok none => false
  | .ok (some _) => true
  | .error error => error.isUserError

/-- Whether a word asks for an answer. -/
def asks (options : Options) (word : String) : Bool :=
  isAnswerable ((Query.ofWord word).parse options)

/-- The words that do not ask for an answer are the plain ones. -/
theorem not_asks_iff {options : Options} {word : String} :
    ¬ asks options word ↔ (Query.ofWord word).parse options = .ok none := by
  unfold asks
  rcases parsed : (Query.ofWord word).parse options with error | _ | expression
  · exact iff_of_false (not_not.mpr (Expression.mendable_parse options _ error parsed)) nofun
  · exact iff_of_true Bool.false_ne_true rfl
  · exact iff_of_false (not_not.mpr rfl) nofun

/-- A line is the answer to a word. -/
inductive Answers (options : Options) (word : String) : String → Prop
  | result {expression : Expression} {draws : List Int}
      (parsed : (Query.ofWord word).parse options = .ok (some expression))
      (enough : draws.length = expression.throws.length) :
      Answers options word (expression.resultOf (Query.ofWord word).text draws).text
  | error {error : Error} (parsed : (Query.ofWord word).parse options = .error error) :
      Answers options word (errorLine error)

namespace Scan.Progress

variable {σ : Type} {options : Options} {source : Source σ} {word : String}
  {progress next : Progress} {state final start : σ} {words : List String}

/-! ## Lines and words -/

/-- A step adds at most one line, in answer to its word or because the budget is used up. -/
theorem Step.lines_cases (step : Step options source word progress state next final) :
    (next.found.lines = progress.found.lines ∧ (asks options word → ¬ progress.Open)) ∨
      (progress.Open ∧ asks options word ∧ ∃ line,
        next.found.lines = progress.found.lines ++ [line] ∧
        (Answers options word line ∨ line = budgetLine)) := by
  cases step with
  | stopped stopped => exact .inl ⟨rfl, fun _ opened => opened.not_stopped stopped⟩
  | full going long => exact .inl ⟨rfl, fun _ opened => opened.not_full long⟩
  | plain opened parsed =>
      refine .inl ⟨rfl, fun asked => ?_⟩
      rw [asks, parsed] at asked
      exact absurd asked Bool.false_ne_true
  | overBudget opened parsed many =>
      refine .inr ⟨opened, ?_, budgetLine, rfl, .inr rfl⟩
      rw [asks, parsed]
      rfl
  | rolled opened parsed few drawn =>
      refine .inr ⟨opened, ?_, _, rfl, .inl (.result parsed (length_eq_of_run_mapM drawn))⟩
      rw [asks, parsed]
      rfl
  | refused opened parsed =>
      refine .inr ⟨opened, ?_, _, rfl, .inl (.error parsed)⟩
      rw [asks, parsed]
      exact Expression.mendable_parse options _ _ parsed

/-- There are two reasons to stop. -/
theorem Run.reason (run : Run options source start words progress final)
    (stopped : progress.stopped = true) :
    progress.found.lines.getLast? = some budgetLine ∨ maxMessageLength < progress.found.size := by
  induction run with
  | nil => exact absurd stopped Bool.false_ne_true
  | snoc earlier step ih =>
      cases step with
      | stopped stopped => exact ih stopped
      | full going long => exact .inr long
      | plain opened parsed => exact ih stopped
      | overBudget opened parsed many => exact .inl List.getLast?_concat
      | rolled opened parsed few drawn => exact absurd stopped opened.not_stopped
      | refused opened parsed => exact absurd stopped opened.not_stopped

/-- As long as neither is met, the scan goes on. -/
theorem Run.opened (run : Run options source start words progress final)
    (unbudgeted : progress.found.lines.getLast? ≠ some budgetLine)
    (room : progress.found.size ≤ maxMessageLength) : progress.Open := by
  refine ⟨Bool.eq_false_iff.mpr fun stopped => ?_, room⟩
  rcases run.reason stopped with last | long
  · exact unbudgeted last
  · exact absurd long (Nat.not_lt.mpr room)

/-- A step adds a line for its word at most, and none for a word that does not ask. -/
theorem Step.length_lines_le (step : Step options source word progress state next final) :
    next.found.lines.length ≤
      progress.found.lines.length + ([word].filter (asks options)).length := by
  rcases step.lines_cases with ⟨same, -⟩ | ⟨-, asked, line, added, -⟩
  · rw [same]
    exact Nat.le_add_right _ _
  · rw [added, List.length_append, List.filter_cons_of_pos asked]
    exact Nat.le_refl _

/-- There are no more lines than words that ask. -/
theorem Run.length_lines_le (run : Run options source start words progress final) :
    progress.found.lines.length ≤ (words.filter (asks options)).length := by
  induction run with
  | nil => exact Nat.le_refl 0
  | snoc earlier step ih =>
      rw [List.filter_append, List.length_append]
      exact step.length_lines_le.trans (Nat.add_le_add_right ih _)

/-! ## Words that are reached -/

/-- If the lines in front of each word that asks are short enough, each gets its answer. -/
theorem Run.answers (run : Run options source start words progress final)
    (unbudgeted : progress.found.lines.getLast? ≠ some budgetLine)
    (reached : ∀ before word after, words = before ++ word :: after → asks options word →
      ((scanWords options source before).run start).1.found.size ≤ maxMessageLength) :
    List.Forall₂ (Answers options) (words.filter (asks options)) progress.found.lines := by
  induction run with
  | nil => exact .nil
  | @snoc words word progress next state final earlier step ih =>
      have reachedBefore : ∀ before word after, words = before ++ word :: after →
          asks options word →
          ((scanWords options source before).run start).1.found.size ≤ maxMessageLength := by
        rintro before inFront after rfl asked
        exact reached before inFront (after ++ [word]) (by simp) asked
      rw [List.filter_append]
      rcases step.lines_cases with ⟨same, passed⟩ | ⟨opened, asked, line, added, answered | rfl⟩
      · -- the word is passed over, and not because of a limit
        rw [same] at unbudgeted ⊢
        have unasked : ¬ asks options word := by
          intro asked
          have room := reached words word [] rfl asked
          rw [run_scanWords_iff.mpr earlier] at room
          exact passed asked (earlier.opened unbudgeted room)
        rw [List.filter_cons_of_neg unasked, List.filter_nil, List.append_nil]
        exact ih unbudgeted reachedBefore
      · have unbudgetedBefore : progress.found.lines.getLast? ≠ some budgetLine := fun last =>
          earlier.within.going opened.going (List.mem_of_getLast? last)
        rw [added, List.filter_cons_of_pos asked, List.filter_nil]
        exact List.rel_append (ih unbudgetedBefore reachedBefore) (.cons answered .nil)
      · rw [added, List.getLast?_concat] at unbudgeted
        exact absurd rfl unbudgeted

/-- If the lines in front of a word that asks are too long, there is a line too few. -/
theorem Run.length_lines_lt (run : Run options source start words progress final)
    {before after : List String} (split : words = before ++ word :: after)
    (asked : asks options word)
    (long : maxMessageLength < ((scanWords options source before).run start).1.found.size) :
    progress.found.lines.length < (words.filter (asks options)).length := by
  induction run generalizing after with
  | nil => simp at split
  | @snoc words last progress next state final earlier step ih =>
      rw [List.filter_append, List.length_append]
      rcases split_concat split with ⟨rfl, rfl⟩ | ⟨between, inFront⟩
      · rw [run_scanWords_iff.mpr earlier] at long
        rcases step.lines_cases with ⟨same, -⟩ | ⟨opened, -⟩
        · rw [same, List.filter_cons_of_pos asked]
          exact Nat.lt_succ_of_le earlier.length_lines_le
        · exact absurd long opened.not_full
      · exact step.length_lines_le.trans_lt (Nat.add_lt_add_right (ih inFront) _)

end Scan.Progress

open Scan.Progress

/-- **All words that ask are answered exactly when each is reached in time.** -/
theorem scan_answers_iff {σ : Type} (options : Options) (source : Source σ) (content : String)
    (state : σ)
    (unbudgeted : ((scan options source content).run state).1.found.lines.getLast? ≠
      some budgetLine) :
    List.Forall₂ (Answers options) ((Text.words content).filter (asks options))
        ((scan options source content).run state).1.found.lines ↔
      ∀ before word after, Text.words content = before ++ word :: after → asks options word →
        ((scanWords options source before).run state).1.found.size ≤ maxMessageLength := by
  rcases ran : (scan options source content).run state with ⟨progress, final⟩
  rw [ran] at unbudgeted
  have run := run_scan_iff.mp ran
  constructor
  · intro answered before word after split asked
    by_contra long
    have fewer := run.length_lines_lt split asked (Nat.lt_of_not_le long)
    rw [answered.length_eq] at fewer
    exact Nat.lt_irrefl _ fewer
  · exact run.answers unbudgeted

/-- Two words that are answered and one that asks for nothing, with every draw an `8`. -/
theorem scan_answers_iff_three_words :
    let eights : Source Unit := { draw := fun _ => pure 8 }
    let found := ((scan {} eights "2f+ and 1f").run ()).1.found
    found.lines.getLast? ≠ some budgetLine ∧
      (∀ before word after, Text.words "2f+ and 1f" = before ++ word :: after → asks {} word →
        ((scanWords {} eights before).run ()).1.found.size ≤ maxMessageLength) ∧
      (Text.words "2f+ and 1f").filter (asks {}) = ["2f+", "1f"] ∧
      found.lines = ["**error** *malformed expression `2f+`: expected dice after the sign*",
        "`1f` `[2]` = **2**"] ∧
      List.Forall₂ (Answers {}) ["2f+", "1f"] found.lines := by
  intro eights found
  have unbudgeted : found.lines.getLast? ≠ some budgetLine := by decide +kernel
  have asking : (Text.words "2f+ and 1f").filter (asks {}) = ["2f+", "1f"] := by decide +kernel
  have short : ∀ before ∈ (Text.words "2f+ and 1f").inits,
      ((scanWords {} eights before).run ()).1.found.size ≤ maxMessageLength := by
    decide +kernel
  have reached : ∀ before word after, Text.words "2f+ and 1f" = before ++ word :: after →
      asks {} word → ((scanWords {} eights before).run ()).1.found.size ≤ maxMessageLength := by
    intro before word after split asked
    apply short
    rw [List.mem_inits, split]
    exact List.prefix_append before (word :: after)
  have answered := (scan_answers_iff {} eights "2f+ and 1f" () unbudgeted).mpr reached
  rw [asking] at answered
  exact ⟨unbudgeted, reached, asking, by decide +kernel, answered⟩

/-! ## A reply that is short in characters -/

/-- Dice, a sign, and at least one emoji where more dice should be. -/
def smiles (n : Nat) : List Char :=
  '2' :: 'f' :: '+' :: '😀' :: List.replicate n '😀'

/-- What is wrong with it. -/
def smilesError (n : Nat) : Error :=
  .malformed (String.ofList (smiles n)) .missingDice

/-- What holds of the four characters holds of the word. -/
theorem forall_mem_smiles {p : Char → Prop} [DecidablePred p] (n : Nat)
    (checked : ['2', 'f', '+', '😀'].all fun c => decide (p c)) : ∀ c ∈ smiles n, p c := by
  intro c member
  apply Text.forall_mem_of_all checked
  simp only [smiles, List.mem_cons, List.mem_replicate] at member ⊢
  tauto

/-- The word is malformed for its sign. -/
theorem parse_smiles (n : Nat) :
    (Query.ofWord (String.ofList (smiles n))).parse {} = .error (smilesError n) := by
  have solid : ∀ c ∈ smiles n, Text.isBlank c = false := forall_mem_smiles n (by decide)
  have fixed : ∀ c ∈ smiles n, c ≠ 'Σ' ∧ Text.lower c = [c] :=
    forall_mem_smiles n (by decide +kernel)
  have query : Query.ofWord (String.ofList (smiles n)) = ⟨String.ofList (smiles n)⟩ := by
    rw [Query.ofWord, String.toList_ofList, Text.trim_of_solid solid, Text.lowercase_of_fixed fixed]
  let behind := '😀' :: List.replicate n '😀'
  let term : Term := { repeats := none, spec := ⟨2, .f, none, none⟩, source := "2f", length := 2 }
  have taken : Term.take? {} (String.ofList (smiles n)).toList = .ok (some (term, '+' :: behind)) := by
    let clauses : Clauses := ⟨none, ['2'], .f, none, none⟩
    have found : Clauses.match? (smiles n) = some (clauses, '+' :: behind) := rfl
    have read : Term.ofClauses {} clauses = .ok (some term) := by decide
    rw [String.toList_ofList, Term.take?_of_found found, read]
    rfl
  have missing : Expression.links? {} (String.ofList (smiles n)) 1 ('+' :: behind) =
      .error (smilesError n) := by
    have few : ¬ ({} : Options).maxTerms ≤ 1 := by decide
    have none : Term.take? {} behind = .ok none := rfl
    have read := Expression.links?_sign {} (String.ofList (smiles n)) 1 .plus behind
    rw [if_neg few, none] at read
    exact read
  rw [query]
  delta Query.parse Expression.parse
  simp only [taken, term, missing]

theorem utf8ByteSize_replicate (n : Nat) (c : Char) :
    (String.ofList (List.replicate n c)).utf8ByteSize = n * c.utf8Size := by
  induction n with
  | zero => exact (Nat.zero_mul _).symm
  | succ n ih =>
      rw [List.replicate_succ, String.ofList_cons, String.utf8ByteSize_append,
        String.utf8ByteSize_singleton, ih, Nat.succ_mul, Nat.add_comm]

/-- The error line is four times as long in bytes as in characters. -/
theorem size_smiles (n : Nat) :
    (errorLine (smilesError n)).length = n + 69 ∧
      (errorLine (smilesError n)).utf8ByteSize = 4 * n + 72 := by
  have text : errorLine (smilesError n) = "**error** *" ++ ("malformed expression `" ++
      String.ofList (smiles n) ++ "`: " ++ "expected dice after the sign") ++ "*" := rfl
  have bytes := utf8ByteSize_replicate n '😀'
  rw [text]
  constructor
  · simp only [smiles, String.length_append, String.length_ofList, List.length_cons,
      List.length_replicate]
    change 11 + (22 + (n + 1 + 1 + 1 + 1) + 3 + 28) + 1 = n + 69
    omega
  · simp only [smiles, String.ofList_cons, String.utf8ByteSize_append, bytes]
    change 11 + (22 + (1 + (1 + (1 + (4 + n * 4)))) + 3 + 28) + 1 = 4 * n + 72
    omega

/-- **Bytes are not characters.** The error line for a word with 490 emojis has 558 characters, and
yet the word behind it is not answered. -/
theorem scan_leaves_words_unanswered :
    let eights : Source Unit := { draw := fun _ => pure 8 }
    let content := String.ofList (smiles 489 ++ [' ', '1', 'f'])
    let found := ((scan {} eights content).run ()).1.found
    found.lines.getLast? ≠ some budgetLine ∧
      (∀ reply ∈ found.reply?, reply.length ≤ maxMessageLength) ∧
      ¬ List.Forall₂ (Answers {}) ((Text.words content).filter (asks {})) found.lines := by
  intro eights content found
  obtain ⟨characters, bytes⟩ := size_smiles 489
  have words : Text.words content = [String.ofList (smiles 489), "1f"] := by
    have solid : ∀ c ∈ smiles 489, Text.isBlank c = false := forall_mem_smiles 489 (by decide)
    have apart := Text.words_append_blank (c := ' ') (by decide) (smiles 489) ['1', 'f']
    have nonempty : smiles 489 ≠ [] := List.cons_ne_nil _ _
    rw [Text.words_of_solid nonempty solid] at apart
    exact apart
  have lines : found.lines = [errorLine (smilesError 489)] := by
    have long : maxMessageLength < (({} : Scan.Progress).refused (smilesError 489)).found.size := by
      have size (line : String) : (({} : Scan).addLine line).size = line.utf8ByteSize + 1 := rfl
      rw [refused, size, bytes]
      decide
    have run : Run {} eights () (Text.words content)
        (({} : Scan.Progress).refused (smilesError 489)).full () := by
      rw [words]
      exact (Run.nil.snoc (.refused ⟨rfl, by decide⟩ (parse_smiles 489))).snoc (.full rfl long)
    have scanned := run_scan_iff.mpr run
    simp only [found, scanned]
    rfl
  refine ⟨?_, ?_, ?_⟩
  · rw [lines]
    intro last
    exact errorLine_ne_budgetLine _ (Option.some_inj.mp last)
  · intro reply replied
    rw [Scan.reply?, lines] at replied
    obtain rfl : "\n".intercalate [errorLine (smilesError 489)] = reply :=
      Option.some_inj.mp replied
    rw [String.intercalate_singleton, characters]
    decide
  · intro answered
    have asked : asks {} (String.ofList (smiles 489)) := by
      rw [asks, parse_smiles]
      rfl
    have askedToo : asks {} "1f" := by decide +kernel
    have count := answered.length_eq
    rw [words, lines, List.filter_cons_of_pos asked, List.filter_cons_of_pos askedToo] at count
    exact absurd count (by decide)

end DiceWords.Chat
