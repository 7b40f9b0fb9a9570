import DiceWords.Proofs.Term.Reading

/-! # Why a term is refused

The clauses of a term are refused for their numbers only (`Term.exists_invalid_of_ofClauses`), and
unless the options ask for a dice count of one digit, they are refused or read as a term. So a term
without a repeat count that has been found in a text is refused exactly when one of its numbers is
out of range (`Term.refusal?_eq_none_iff`, `Term.take?_of_bare`). -/

namespace DiceWords.Term

variable {options : Options} {clauses : Clauses}

/-! ## What clauses are refused for -/

/-- Two readings one after the other fail where the first does, or behind it where the second does.
-/
theorem bind_eq_error_iff {α β : Type} {first : Except Error α} {next : α → Except Error β}
    {error : Error} :
    first >>= next = .error error ↔
      first = .error error ∨ ∃ a, first = .ok a ∧ next a = .error error := by
  cases first <;> simp [bind, Except.bind]

/-- A number is refused for its size only. -/
theorem exists_invalid_of_number {bound : Nat} {digits : List Char} {error : Error}
    (failed : number bound digits = .error error) : ∃ why, error = .invalid why := by
  unfold number at failed
  split at failed
  · exact nomatch failed
  · exact ⟨_, (Except.error.inj failed).symm⟩

/-- A field made from a number is refused for the size of the number only. -/
theorem exists_invalid_of_map_number {α : Type} {field : Nat → α} {bound : Nat}
    {digits : List Char} {error : Error} (failed : (number bound digits).map field = .error error) :
    ∃ why, error = .invalid why := by
  cases read : number bound digits with
  | error other =>
      rw [read] at failed
      obtain rfl : other = error := Except.error.inj failed
      exact exists_invalid_of_number read
  | ok n =>
      rw [read] at failed
      exact nomatch failed

/-- A clause that may be absent is refused only if it is there. -/
theorem exists_of_mapM_eq_error {α β : Type} {read : α → Except Error β} {clause : Option α}
    {error : Error} (failed : clause.mapM read = .error error) : ∃ a, read a = .error error := by
  cases clause with
  | none => exact nomatch failed
  | some a =>
      refine ⟨a, ?_⟩
      rw [Option.mapM_some] at failed
      cases outcome : read a with
      | error other =>
          rw [outcome] at failed
          exact congrArg Except.error (Except.error.inj failed)
      | ok b =>
          rw [outcome] at failed
          exact nomatch failed

/-- Clauses are refused for their numbers only: their letter names a die. -/
theorem exists_invalid_of_ofClauses {error : Error}
    (failed : ofClauses options clauses = .error error) : ∃ why, error = .invalid why := by
  rcases bind_eq_error_iff.mp failed with failed | ⟨repeats, -, failed⟩
  · obtain ⟨digits, failed⟩ := exists_of_mapM_eq_error failed
    exact exists_invalid_of_number failed
  split at failed
  · exact nomatch failed
  rcases bind_eq_error_iff.mp failed with failed | ⟨amount, -, failed⟩
  · exact exists_invalid_of_number failed
  rcases bind_eq_error_iff.mp failed with failed | ⟨die, -, failed⟩
  · exact nomatch (Die.read_letter clauses.die).symm.trans failed
  rcases bind_eq_error_iff.mp failed with failed | ⟨keep, -, failed⟩
  · obtain ⟨clause, failed⟩ := exists_of_mapM_eq_error failed
    exact exists_invalid_of_map_number failed
  rcases bind_eq_error_iff.mp failed with failed | ⟨modifier, -, failed⟩
  · obtain ⟨clause, failed⟩ := exists_of_mapM_eq_error failed
    exact exists_invalid_of_map_number failed
  split at failed
  · next why _ => exact ⟨why, (Except.error.inj failed).symm⟩
  · exact nomatch failed

/-- Unless the options ask for a dice count of one digit, all clauses are read or refused. -/
theorem ofClauses_ne_ok_none (many : options.singleDigit = false) :
    ofClauses options clauses ≠ .ok none := by
  intro read
  obtain ⟨repeats, -, read⟩ := bind_eq_ok_iff.mp read
  split at read
  · next long => simp [many] at long
  · obtain ⟨amount, -, read⟩ := bind_eq_ok_iff.mp read
    obtain ⟨die, -, read⟩ := bind_eq_ok_iff.mp read
    obtain ⟨keep, -, read⟩ := bind_eq_ok_iff.mp read
    obtain ⟨modifier, -, read⟩ := bind_eq_ok_iff.mp read
    split at read
    · cases read
    · cases read

/-! ## The first refusal -/

/-- Why the numbers of a term are refused, if they are. -/
def refusal? (options : Options) (clauses : Clauses) : Option Error :=
  match ofClauses options clauses with
  | .error error => some error
  | .ok _ => none

/-- **A single term is not refused when its numbers are in range.** -/
theorem refusal?_eq_none_iff (many : options.singleDigit = false) (numeric : clauses.Numeric)
    (bare : clauses.repeats = none) :
    refusal? options clauses = none ↔ clauses.Allowed options := by
  unfold refusal?
  constructor
  · intro accepted
    rcases read : ofClauses options clauses with error | _ | term
    · rw [read] at accepted
      exact nomatch accepted
    · exact absurd read (ofClauses_ne_ok_none many)
    · exact (allowed_of_ofClauses numeric read).2.1
  · intro allowed
    rw [ofClauses_of_allowed (by simp [bare]) allowed]

/-- A refusal is one for a number. -/
theorem exists_invalid_of_refusal? {error : Error} (refused : refusal? options clauses = some error) :
    ∃ why, error = .invalid why := by
  unfold refusal? at refused
  split at refused
  · next other failed =>
    obtain rfl := Option.some.inj refused
    exact exists_invalid_of_ofClauses failed
  · exact nomatch refused

/-- Nothing is found, unless one of the terms is refused; then the first refusal counts. -/
def noneUnlessRefused {α : Type} (options : Options) (terms : List Clauses) :
    Except Error (Option α) :=
  (terms.findSome? (refusal? options)).elim (.ok none) .error

section

variable {α : Type} {terms : List Clauses}

/-- The first refusal counts, whatever comes behind it. -/
theorem noneUnlessRefused_cons_of_refused {error : Error}
    (refused : refusal? options clauses = some error) :
    (noneUnlessRefused options (clauses :: terms) : Except Error (Option α)) = .error error := by
  rw [noneUnlessRefused, List.findSome?_cons, refused]
  rfl

/-- A term that is not refused leaves the matter to the others. -/
theorem noneUnlessRefused_cons_of_accepted (accepted : refusal? options clauses = none) :
    (noneUnlessRefused options (clauses :: terms) : Except Error (Option α)) =
      noneUnlessRefused options terms := by
  rw [noneUnlessRefused, List.findSome?_cons, accepted]
  rfl

/-- As nothing is found, it does not matter what would be made of it. -/
theorem map_noneUnlessRefused {β : Type} (f : α → β) :
    (noneUnlessRefused options terms).map (fun found => found.map f) =
      noneUnlessRefused options terms := by
  unfold noneUnlessRefused
  cases terms.findSome? (refusal? options) with
  | none => rfl
  | some error => rfl

/-- Nothing is found and nothing refused when no term is. -/
theorem noneUnlessRefused_eq_ok_none_iff :
    (noneUnlessRefused options terms : Except Error (Option α)) = .ok none ↔
      ∀ clauses ∈ terms, refusal? options clauses = none := by
  rw [← List.findSome?_eq_none_iff, noneUnlessRefused]
  cases terms.findSome? (refusal? options) with
  | none => exact iff_of_true rfl rfl
  | some error => exact iff_of_false nofun nofun

end

/-! ## Terms at the start of a text -/

variable {text rest : List Char}

/-- Where no term is written, none is read. -/
theorem take?_of_missing (missing : Clauses.match? text = none) :
    take? options text = .ok none := by
  unfold take?
  rw [missing]

/-- Where a term is written, its clauses are read. -/
theorem take?_of_found (found : Clauses.match? text = some (clauses, rest)) :
    take? options text =
      (ofClauses options clauses).map fun found => found.map fun term => (term, rest) := by
  unfold take?
  rw [found]

/-- What stands at the start of a text is refused for a number only. -/
theorem exists_invalid_of_take? {error : Error} (failed : take? options text = .error error) :
    ∃ why, error = .invalid why := by
  rcases found : Clauses.match? text with _ | ⟨clauses, rest⟩
  · rw [take?_of_missing found] at failed
    exact nomatch failed
  · rw [take?_of_found found] at failed
    rcases read : ofClauses options clauses with other | result
    · rw [read] at failed
      obtain rfl : other = error := Except.error.inj failed
      exact exists_invalid_of_ofClauses read
    · rw [read] at failed
      exact nomatch failed

/-- Where no term is read, none is written, unless the option for single digits has passed it over.
-/
theorem match?_of_take? (many : options.singleDigit = false)
    (taken : take? options text = .ok none) : Clauses.match? text = none := by
  rcases found : Clauses.match? text with _ | ⟨clauses, rest⟩
  · rfl
  · rw [take?_of_found found] at taken
    rcases read : ofClauses options clauses with error | _ | term
    · rw [read] at taken
      exact nomatch taken
    · exact absurd read (ofClauses_ne_ok_none many)
    · rw [read] at taken
      exact nomatch taken

/-- A term without a repeat count is refused for its numbers or read as it stands. -/
theorem take?_of_bare (many : options.singleDigit = false)
    (found : Clauses.match? text = some (clauses, rest)) (bare : clauses.repeats = none) :
    (∃ error, refusal? options clauses = some error ∧ take? options text = .error error) ∨
      (refusal? options clauses = none ∧
        ∃ term, term.repeats = none ∧ take? options text = .ok (some (term, rest))) := by
  rw [take?_of_found found]
  unfold refusal?
  rcases read : ofClauses options clauses with error | _ | term
  · exact .inl ⟨error, rfl, rfl⟩
  · exact absurd read (ofClauses_ne_ok_none many)
  · obtain ⟨-, numeric, -⟩ := Clauses.match?_eq_some_iff.mp found
    obtain ⟨-, -, rfl⟩ := allowed_of_ofClauses numeric read
    exact .inr ⟨rfl, clauses.term, Option.map_eq_none_iff.mpr bare, rfl⟩

end DiceWords.Term
