import DiceWords.Proofs.Query.Solve
import DiceWords.Proofs.Expression.Sources

/-! # Joining chains

Two chains with a sign between them are a chain again, as long as it is not too long: whatever the
last term of the first chain ends with, the sign and the dice count behind it begin a new term.
Solving the whole is solving the first chain and then, with the state of the source that it leaves,
the second one (`Query.solve_append`). -/

namespace DiceWords

namespace Form

variable {first next : Clauses} {rest more : List (Sign × Clauses)}

/-- Two chains with a sign between them are written as one. -/
theorem Derives.append_sign {word other : String} (derives : (chain first rest).Derives word)
    (derives' : (chain next more).Derives other) (sign : Sign) :
    (chain first (rest ++ (sign, next) :: more)).Derives (word ++ sign.text ++ other) := by
  obtain ⟨⟨isTerm, terms⟩, written⟩ := derives
  obtain ⟨⟨isTerm', terms'⟩, written'⟩ := derives'
  refine ⟨⟨isTerm, List.forall_mem_append.mpr ⟨terms, List.forall_mem_cons.mpr ⟨isTerm', terms'⟩⟩⟩,
    ?_⟩
  calc (chain first (rest ++ (sign, next) :: more)).chars
      = (chain first rest).chars ++ sign.char :: (chain next more).chars := by
        simp [Form.chars, signedChars]
    _ = (word ++ sign.text ++ other).toList := by
        rw [written, written']
        simp

/-- Two chains whose numbers are in range make one, as long as it has not too many terms. -/
theorem Allowed.append_sign {options : Options} (allowed : (chain first rest).Allowed options)
    (allowed' : (chain next more).Allowed options) (sign : Sign)
    (few : rest.length + 1 + (more.length + 1) ≤ options.maxTerms) :
    (chain first (rest ++ (sign, next) :: more)).Allowed options := by
  obtain ⟨-, fits, othersFit⟩ := allowed
  obtain ⟨-, fits', othersFit'⟩ := allowed'
  refine ⟨?_, fits, List.forall_mem_append.mpr
    ⟨othersFit, List.forall_mem_cons.mpr ⟨fits', othersFit'⟩⟩⟩
  rw [List.length_append, List.length_cons]
  omega

end Form

/-- **Chains can be joined.** Two words that are chains, with a sign between them, are the chain of
the links of both, where the sign is that of the first link of the second chain. -/
theorem Expression.exists_parse_append {options : Options} {word other : String}
    {links others : List Link} (parsed : parse options word = .ok (some (.chain links)))
    (parsed' : parse options other = .ok (some (.chain others)))
    (few : links.length + others.length ≤ options.maxTerms) (sign : Sign) :
    ∃ link behind, others = link :: behind ∧
      parse options (word ++ sign.text ++ other) =
        .ok (some (.chain (links ++ { link with sign } :: behind))) := by
  obtain ⟨first, rest, derives, allowed, rfl⟩ := exists_chain_of_parse parsed
  obtain ⟨next, more, derives', allowed', rfl⟩ := exists_chain_of_parse parsed'
  refine ⟨_, _, rfl, ?_⟩
  simp only [List.length_cons, List.length_map] at few
  rw [parse_of_derives (derives.append_sign derives' sign)
    (allowed.append_sign allowed' sign few)]
  simp [Form.expression, Form.link]

/-- **Chains compose.** Two words that are chains, with a sign between them, are the chain of the
links of both, where the sign is that of the first link of the second chain. Solving it yields the
outcomes of the first word and then those of the second, thrown from the source as the first has
left it, with the sign on the first of them; and the total is the sum of all signed totals from the
left, kept in range at each step. -/
theorem Query.solve_append {options : Options} {word other : String} {links others : List Link}
    (parsed : Expression.parse options word = .ok (some (.chain links)))
    (parsed' : Expression.parse options other = .ok (some (.chain others)))
    (few : links.length + others.length ≤ options.maxTerms) (sign : Sign) :
    (∃ link behind, others = link :: behind ∧
      Expression.parse options (word ++ sign.text ++ other) =
        .ok (some (.chain (links ++ { link with sign } :: behind)))) ∧
    ∀ {σ : Type} (source : Source σ) (state : σ),
      ∃ (outcomes : List Outcome) (outcome : Outcome) (behind : List Outcome) (between final : σ),
        ((Query.ofWord word).solve options source).run state =
          (.ok (some { kind := .chain, query := word, outcomes }), between) ∧
        ((Query.ofWord other).solve options source).run between =
          (.ok (some { kind := .chain, query := other, outcomes := outcome :: behind }), final) ∧
        ((Query.ofWord (word ++ sign.text ++ other)).solve options source).run state =
          (.ok (some {
            kind := .chain
            query := word ++ sign.text ++ other
            outcomes := outcomes ++ { outcome with sign } :: behind }), final) ∧
        Chain.total (outcomes ++ { outcome with sign } :: behind) =
          (outcomes.map Outcome.signedTotal ++
            sign.apply outcome.total :: behind.map Outcome.signedTotal).foldl
              (fun sum total => saturate (sum + total)) 0 := by
  obtain ⟨link, rest, rfl, joined⟩ := Expression.exists_parse_append parsed parsed' few sign
  refine ⟨⟨link, rest, rfl, joined⟩, fun source state => ?_⟩
  rcases thrown : (rollLinks source links).run state with ⟨outcomes, between⟩
  obtain ⟨outcome, behind, final, more, signed⟩ :=
    run_rollLinks_sign source sign link rest between
  refine ⟨outcomes, outcome, behind, between, final, ?_, ?_, ?_, ?_⟩
  · rw [Query.run_solve_chain parsed, thrown]
  · rw [Query.run_solve_chain parsed', more]
  · rw [Query.run_solve_chain joined, run_rollLinks_append, thrown]
    simp only [signed]
  · have totals : outcomes.map Outcome.signedTotal ++
        sign.apply outcome.total :: behind.map Outcome.signedTotal =
          (outcomes ++ { outcome with sign } :: behind).map Outcome.signedTotal := by
      rw [List.map_append]
      rfl
    rw [totals, List.foldl_map]
    rfl

/-- `2f+3` and `1r-2` with a minus between them, drawn by counting. -/
theorem Query.solve_append_two_terms :
    let first : Term := {
      repeats := none, spec := ⟨2, .f, none, some 3⟩, source := "2f+3", length := 4 }
    let second : Term := {
      repeats := none, spec := ⟨1, .r, none, some (-2)⟩, source := "1r-2", length := 4 }
    let counting : Source Int := { draw := fun _ drawn => (drawn + 1, drawn + 1) }
    Expression.parse {} "2f+3" = .ok (some (.chain [⟨.plus, first⟩])) ∧
    Expression.parse {} "1r-2" = .ok (some (.chain [⟨.plus, second⟩])) ∧
    Expression.parse {} "2f+3-1r-2" = .ok (some (.chain [⟨.plus, first⟩, ⟨.minus, second⟩])) ∧
    ((Query.ofWord "2f+3-1r-2").solve {} counting).run 0 = (.ok (some {
      kind := .chain
      query := "2f+3-1r-2"
      outcomes := [
        { faces := [⟨-5, some .lowest, true⟩, ⟨-4, none, true⟩], modifier := some 3,
          source := "2f+3", sign := .plus },
        { faces := [⟨-6, none, true⟩], modifier := some (-2),
          source := "1r-2", sign := .minus }] }), 3) := by
  intro first second counting
  have parsed : Expression.parse {} "2f+3" = .ok (some (.chain [⟨.plus, first⟩])) := by
    decide +kernel
  have parsed' : Expression.parse {} "1r-2" = .ok (some (.chain [⟨.plus, second⟩])) := by
    decide +kernel
  obtain ⟨⟨_, _, same, joined⟩, solved⟩ := solve_append parsed parsed' (by decide) .minus
  obtain ⟨outcomes, outcome, behind, between, final, thrown, thrown', whole, -⟩ := solved counting 0
  obtain ⟨rfl, rfl⟩ := List.cons.inj same
  rw [run_solve_chain parsed] at thrown
  cases thrown
  rw [run_solve_chain parsed'] at thrown'
  cases thrown'
  exact ⟨parsed, parsed', joined, whole⟩

end DiceWords
