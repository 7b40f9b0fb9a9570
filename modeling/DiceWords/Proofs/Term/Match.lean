import DiceWords.Proofs.Text.Numeral
import DiceWords.Term.Clauses

/-! # Which term is found

Looking for a term never goes back on a clause it has taken, and a modifier is taken only when what
follows it cannot begin the next term. Still the outcome can be said without the search: the clauses
found are those that are written at the start of the text, hold numerals only, and cannot be
continued by the text behind them (`match?_eq_some_iff`). A term is therefore found as it stands at
the end of a text (`ends_nil`) and in front of a sign that leads on to the next term
(`ends_of_leads`). -/

namespace DiceWords.Clauses

open Text (Numeral startsDigit number?_append number?_eq_some_iff)

/-- Every number of the clauses is a numeral. -/
structure Numeric (clauses : Clauses) : Prop where
  repeats : ∀ digits ∈ clauses.repeats, Numeral digits
  amount : Numeral clauses.amount
  keep : ∀ clause ∈ clauses.keep, Numeral clause.2
  modifier : ∀ clause ∈ clauses.modifier, Numeral clause.2

/-! ## What a clause cannot be continued by -/

/-- A text that does not continue a keep clause, or does not begin with one when it is missing. -/
def KeepEnds (rest : List Char) : Option (Keep.Side × List Char) → Prop
  | none => (takeKeep rest).1 = none
  | some _ => startsDigit rest = false

/-- A text that does not continue a modifier, or does not begin with one when it is missing. -/
def ModifierEnds (rest : List Char) : Option (Sign × List Char) → Prop
  | none => (takeModifier rest).1 = none
  | some _ => startsDigit rest = false ∧ continuesTerm rest = false

/-- A text that does not continue the term. -/
structure Ends (clauses : Clauses) (rest : List Char) : Prop where
  keep : KeepEnds (modifierChars clauses.modifier ++ rest) clauses.keep
  modifier : ModifierEnds rest clauses.modifier

@[simp] theorem startsDigit_letter (die : Die) (rest : List Char) :
    startsDigit (die.letter :: rest) = false := by
  cases die <;> rfl

@[simp] theorem startsDigit_sign (sign : Sign) (rest : List Char) :
    startsDigit (sign.char :: rest) = false := by
  cases sign <;> rfl

@[simp] theorem continuesTerm_letter (die : Die) (rest : List Char) :
    continuesTerm (die.letter :: rest) = true := by
  cases die <;> rfl

@[simp] theorem continuesTerm_sign (sign : Sign) (rest : List Char) :
    continuesTerm (sign.char :: rest) = false := by
  cases sign <;> rfl

@[simp] theorem takeSign?_cons (sign : Sign) (rest : List Char) :
    takeSign? (sign.char :: rest) = some (sign, rest) := by
  simp [takeSign?]

@[simp] theorem takeSide?_append (side : Keep.Side) (rest : List Char) :
    takeSide? (side.letters.toList ++ rest) = some (side, rest) := by
  cases side <;> rfl

@[simp] theorem takeDie?_cons (die : Die) (rest : List Char) :
    takeDie? (die.letter :: rest) = some (die, rest) := by
  simp [takeDie?]

/-- No keep clause begins with a sign. -/
theorem takeKeep_sign (sign : Sign) (rest : List Char) :
    takeKeep (sign.char :: rest) = (none, sign.char :: rest) := by
  cases sign <;> rfl

/-! ## Clause by clause -/

/-- A repeat clause is what stands in front of a dice count, and there is none where the dice count
comes first. -/
theorem takeRepeats_eq_iff {text amount after : List Char} {repeats : Option (List Char)}
    {die : Die} (numeral : Numeral amount) :
    takeRepeats text = (repeats, amount ++ die.letter :: after) ↔
      text = repeatsChars repeats ++ (amount ++ die.letter :: after) ∧
        ∀ digits ∈ repeats, Numeral digits := by
  constructor
  · intro found
    have whole := takeRepeats_append text
    rw [found] at whole
    refine ⟨whole.symm, ?_⟩
    rintro digits rfl
    unfold takeRepeats at found
    split at found
    · next other _ read =>
      obtain rfl := Option.some.inj (Prod.mk.inj found).1
      exact (number?_eq_some_iff.mp read).2.1
    · exact absurd (Prod.mk.inj found).1 (by simp)
  · rintro ⟨rfl, numerals⟩
    unfold takeRepeats
    cases repeats with
    | none =>
        simp only [repeatsChars, List.nil_append,
          number?_append numeral (startsDigit_letter die after)]
        cases die <;> rfl
    | some digits =>
        have stops : startsDigit ('#' :: (amount ++ die.letter :: after)) = false := rfl
        simp only [repeatsChars, List.append_assoc, List.singleton_append,
          number?_append (numerals digits rfl) stops]

/-- The counts and the letter are found exactly where they are written; the letter ends the dice
count, whatever follows. -/
theorem takeDice?_eq_some_iff {text rest amount : List Char} {repeats : Option (List Char)}
    {die : Die} :
    takeDice? text = some ((repeats, amount, die), rest) ↔
      text = repeatsChars repeats ++ (amount ++ die.letter :: rest) ∧
        (∀ digits ∈ repeats, Numeral digits) ∧ Numeral amount := by
  constructor
  · intro found
    unfold takeDice? at found
    split at found
    · contradiction
    · next count lettered counted =>
      obtain ⟨⟨named, after⟩, letter, same⟩ := Option.map_eq_some_iff.mp found
      obtain ⟨clausesEq, rfl⟩ := Prod.mk.inj same
      obtain ⟨rfl, rfl, rfl⟩ := clausesEq
      obtain ⟨behind, numeral, -⟩ := number?_eq_some_iff.mp counted
      rw [takeDie?_eq_some letter] at behind
      obtain ⟨whole, numerals⟩ := (takeRepeats_eq_iff numeral).mp (Prod.ext rfl behind)
      exact ⟨whole, numerals, numeral⟩
  · rintro ⟨whole, numerals, numeral⟩
    have counted := (takeRepeats_eq_iff numeral).mpr ⟨whole, numerals⟩
    unfold takeDice?
    rw [counted, number?_append numeral (startsDigit_letter die rest)]
    simp only [takeDie?_cons, Option.map_some]

/-- **A keep clause is found as far as it goes**: what follows it begins with no digit, and where
there is none no clause begins. -/
theorem takeKeep_eq_iff {text rest : List Char} {keep : Option (Keep.Side × List Char)} :
    takeKeep text = (keep, rest) ↔
      text = keepChars keep ++ rest ∧ (∀ clause ∈ keep, Numeral clause.2) ∧
        KeepEnds rest keep := by
  have whole := takeKeep_append text
  constructor
  · intro found
    rw [found] at whole
    refine ⟨whole.symm, ?_⟩
    cases keep with
    | none =>
        have missing : text = rest := whole.symm
        exact ⟨by simp, by rw [KeepEnds, ← missing, found]⟩
    | some clause =>
        unfold takeKeep at found
        split at found
        · exact absurd (Prod.mk.inj found).1 (by simp)
        · split at found
          · exact absurd (Prod.mk.inj found).1 (by simp)
          · next digits after counted =>
            obtain ⟨clauseEq, rfl⟩ := Prod.mk.inj found
            obtain rfl := Option.some.inj clauseEq
            obtain ⟨-, numeral, ends⟩ := number?_eq_some_iff.mp counted
            exact ⟨by simpa using numeral, ends⟩
  · rintro ⟨rfl, numerals, ends⟩
    cases keep with
    | none =>
        have missing : (takeKeep rest).1 = none := ends
        exact Prod.ext missing (by simpa [missing, keepChars] using takeKeep_append rest)
    | some clause =>
        obtain ⟨side, digits⟩ := clause
        unfold takeKeep
        simp only [keepChars, List.append_assoc, takeSide?_append,
          number?_append (numerals _ rfl) ends]

/-- **A modifier is found as far as it goes**, and only where its digits do not begin the next term.
-/
theorem takeModifier_eq_iff {text rest : List Char} {modifier : Option (Sign × List Char)} :
    takeModifier text = (modifier, rest) ↔
      text = modifierChars modifier ++ rest ∧ (∀ clause ∈ modifier, Numeral clause.2) ∧
        ModifierEnds rest modifier := by
  constructor
  · intro found
    have whole := takeModifier_append text
    rw [found] at whole
    refine ⟨whole.symm, ?_⟩
    cases modifier with
    | none =>
        have missing : text = rest := whole.symm
        exact ⟨by simp, by rw [ModifierEnds, ← missing, found]⟩
    | some clause =>
        unfold takeModifier at found
        split at found
        · exact absurd (Prod.mk.inj found).1 (by simp)
        · split at found
          · exact absurd (Prod.mk.inj found).1 (by simp)
          · next digits after counted =>
            split at found
            · exact absurd (Prod.mk.inj found).1 (by simp)
            · next alone =>
              obtain ⟨clauseEq, rfl⟩ := Prod.mk.inj found
              obtain rfl := Option.some.inj clauseEq
              obtain ⟨-, numeral, ends⟩ := number?_eq_some_iff.mp counted
              exact ⟨by simpa using numeral, ends, by simpa using alone⟩
  · rintro ⟨rfl, numerals, ends⟩
    cases modifier with
    | none =>
        have missing : (takeModifier rest).1 = none := ends
        exact Prod.ext missing (by simpa [missing, modifierChars] using takeModifier_append rest)
    | some clause =>
        obtain ⟨sign, digits⟩ := clause
        obtain ⟨stops, alone⟩ := ends
        unfold takeModifier
        simp only [modifierChars, List.cons_append, takeSign?_cons,
          number?_append (numerals _ rfl) stops, alone, Bool.false_eq_true, if_false]

/-! ## The whole term -/

/-- **The term at the start of a text.** The clauses found are those that are written there with
numerals only and are not continued by what follows. -/
theorem match?_eq_some_iff {text rest : List Char} {clauses : Clauses} :
    match? text = some (clauses, rest) ↔
      text = clauses.chars ++ rest ∧ clauses.Numeric ∧ clauses.Ends rest := by
  constructor
  · intro found
    refine ⟨eq_chars_append_of_match? found, ?_⟩
    obtain ⟨⟨⟨repeats, amount, die⟩, after⟩, dice, same⟩ := Option.map_eq_some_iff.mp found
    rcases kept : takeKeep after with ⟨keep, behind⟩
    rcases modified : takeModifier behind with ⟨modifier, last⟩
    simp only [kept, modified, Prod.mk.injEq] at same
    obtain ⟨rfl, rfl⟩ := same
    obtain ⟨-, repeatNumerals, amountNumeral⟩ := takeDice?_eq_some_iff.mp dice
    obtain ⟨-, keepNumerals, keepEnds⟩ := takeKeep_eq_iff.mp kept
    obtain ⟨rfl, modifierNumerals, modifierEnds⟩ := takeModifier_eq_iff.mp modified
    exact ⟨⟨repeatNumerals, amountNumeral, keepNumerals, modifierNumerals⟩, keepEnds, modifierEnds⟩
  · rintro ⟨rfl, numeric, ends⟩
    have written : clauses.chars ++ rest = repeatsChars clauses.repeats ++ (clauses.amount ++
        clauses.die.letter :: (keepChars clauses.keep ++
          (modifierChars clauses.modifier ++ rest))) := by
      simp only [chars, sourceChars, List.append_assoc, List.cons_append]
    have dice := takeDice?_eq_some_iff.mpr ⟨written, numeric.repeats, numeric.amount⟩
    have kept := takeKeep_eq_iff.mpr ⟨rfl, numeric.keep, ends.keep⟩
    have modified := takeModifier_eq_iff.mpr ⟨rfl, numeric.modifier, ends.modifier⟩
    unfold match?
    rw [dice]
    simp only [Option.map_some, kept, modified]

/-! ## Texts that end a term -/

/-- A sign ends a keep clause. -/
theorem keepEnds_sign (sign : Sign) (rest : List Char) (keep : Option (Keep.Side × List Char)) :
    KeepEnds (sign.char :: rest) keep := by
  cases keep with
  | none => exact congrArg Prod.fst (takeKeep_sign sign rest)
  | some clause => exact startsDigit_sign sign rest

/-- A text that begins with nothing that a term could go on with ends every term. -/
theorem ends_of_stops {rest : List Char} (stops : startsDigit rest = false)
    (alone : continuesTerm rest = false) (unkept : (takeKeep rest).1 = none)
    (unmodified : (takeModifier rest).1 = none) (clauses : Clauses) : clauses.Ends rest := by
  constructor
  · cases clauses.modifier with
    | none =>
        cases clauses.keep with
        | none => exact unkept
        | some clause => exact stops
    | some clause => exact keepEnds_sign clause.1 _ clauses.keep
  · cases clauses.modifier with
    | none => exact unmodified
    | some clause => exact ⟨stops, alone⟩

/-- Nothing continues a term at the end of a text. -/
theorem ends_nil (clauses : Clauses) : clauses.Ends [] :=
  ends_of_stops rfl rfl rfl rfl clauses

/-- A sign that no modifier begins with ends every term. -/
theorem ends_of_sign {sign : Sign} {rest : List Char}
    (unmodified : (takeModifier (sign.char :: rest)).1 = none) (clauses : Clauses) :
    clauses.Ends (sign.char :: rest) :=
  ends_of_stops (startsDigit_sign sign rest) (continuesTerm_sign sign rest)
    (congrArg Prod.fst (takeKeep_sign sign rest)) unmodified clauses

/-- A text that leads on to the next term: a sign, and digits in front of a letter or of `#`. -/
def Leads (rest : List Char) : Prop :=
  ∃ (sign : Sign) (digits after : List Char),
    rest = sign.char :: (digits ++ after) ∧ Numeral digits ∧ continuesTerm after

/-- What makes digits in front belong to a term is no digit itself. -/
theorem startsDigit_of_continuesTerm {text : List Char} (continues : continuesTerm text) :
    startsDigit text = false := by
  cases text with
  | nil => rfl
  | cons c rest =>
      unfold continuesTerm at continues
      rcases Bool.or_eq_true_iff.mp continues with hash | letter
      · rw [beq_iff_eq.mp hash]
        rfl
      · obtain ⟨die, named⟩ := Option.isSome_iff_exists.mp letter
        rw [Die.ofLetter?_eq_some named]
        exact startsDigit_letter die rest

/-- The sign of the next term is no modifier of the term before it. -/
theorem takeModifier_of_leads {rest : List Char} (leads : Leads rest) :
    (takeModifier rest).1 = none := by
  obtain ⟨sign, digits, after, rfl, numeral, continues⟩ := leads
  unfold takeModifier
  simp only [takeSign?_cons, number?_append numeral (startsDigit_of_continuesTerm continues),
    continues, if_true]

/-- A term ends where the next one is led on to, whatever its last clause is. -/
theorem ends_of_leads {rest : List Char} (clauses : Clauses) (leads : Leads rest) :
    clauses.Ends rest := by
  have unmodified := takeModifier_of_leads leads
  obtain ⟨sign, digits, after, rfl, -, -⟩ := leads
  exact ends_of_sign unmodified clauses

end DiceWords.Clauses
