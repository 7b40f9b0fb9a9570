import DiceWords.Expression
import DiceWords.Proofs.Expression.Grammar

/-! # Which words are expressions

A word is read as an expression exactly when it belongs to the grammar and the numbers of its form
are in range (`Expression.parse_accepts_grammar`). The search for terms takes what it can and never
goes back, and still it finds the one form of each word: a sign and digits behind a term are its
modifier unless they lead on to the next term. -/

namespace DiceWords

open Text (Numeral value)

namespace Form

/-- The numbers of the form are in range, and the terms are not too many. -/
def Allowed (options : Options) : Form → Prop
  | batch times term => (1 ≤ value times ∧ value times ≤ maxRepeats) ∧ term.Allowed options
  | chain first rest =>
    rest.length + 1 ≤ max 1 options.maxTerms ∧ first.Allowed options ∧
      ∀ part ∈ rest, part.2.Allowed options

/-- A signed term as a link of a chain. -/
def link (part : Sign × Clauses) : Link where
  sign := part.1
  term := part.2.term

/-- The expression that is written in this form, every number at its decimal value. -/
def expression : Form → Expression
  | batch times term => .batch (value times) (term.repeated times).term
  | chain first rest => .chain ({ sign := .plus, term := first.term } :: rest.map link)

end Form

namespace Clauses.IsTerm

variable {options : Options} {clauses : Clauses}

theorem repeats_term (isTerm : clauses.IsTerm) : clauses.term.repeats = none := by
  simp [term, isTerm.bare]

/-- A term with its numbers in range is read where nothing continues it. -/
theorem take?_sourceChars (isTerm : clauses.IsTerm) (allowed : clauses.Allowed options)
    {rest : List Char} (ends : clauses.Ends rest) :
    Term.take? options (clauses.sourceChars ++ rest) = .ok (some (clauses.term, rest)) := by
  rw [Term.take?_eq_ok_some_iff]
  refine ⟨clauses, by rw [isTerm.chars_eq], isTerm.toNumeric, ends, ?_, allowed, rfl⟩
  simp [isTerm.bare]

/-- So is a repeated term. -/
theorem take?_repeated (isTerm : clauses.IsTerm) (allowed : clauses.Allowed options)
    {times : List Char} (numeral : Numeral times)
    (timesFit : 1 ≤ value times ∧ value times ≤ maxRepeats) {rest : List Char}
    (ends : (clauses.repeated times).Ends rest) :
    Term.take? options ((clauses.repeated times).chars ++ rest) =
      .ok (some ((clauses.repeated times).term, rest)) := by
  rw [Term.take?_eq_ok_some_iff]
  refine ⟨clauses.repeated times, rfl, isTerm.numeric_repeated numeral, ends, ?_, ?_, rfl⟩
  · simpa [Clauses.repeated] using timesFit
  · exact ⟨allowed.singleDigit, allowed.amount, allowed.keep, allowed.modifier⟩

end Clauses.IsTerm

namespace Expression

open Form (signedChars)

/-! ## The links of a chain -/

/-- What a sign behind a term leads to. -/
theorem links?_sign (options : Options) (word : String) (read : Nat) (sign : Sign)
    (text : List Char) :
    links? options word read (sign.char :: text) =
      if options.maxTerms ≤ read then .error (.malformed word .tooManyTerms)
      else
        match Term.take? options text with
        | .error e => .error e
        | .ok none => .error (.malformed word .missingDice)
        | .ok (some (term, rest)) =>
          if term.repeats.isSome then .error (.malformed word .repeatInChain)
          else (links? options word (read + 1) rest).map fun found =>
            found.map ({ sign, term } :: ·) := by
  rw [links?]
  simp only [Sign.ofChar?_char]
  split
  · rfl
  · split
    · next e taken => simp [taken]
    · next taken => simp [taken]
    · next term rest taken =>
      simp only [taken]
      split
      · rfl
      · rcases links? options word (read + 1) rest with e | _ | links <;> rfl

/-- Signed terms are read as links, and then what stands behind them is read. -/
theorem links?_signedChars_append {options : Options} {word : String} {read : Nat}
    {rest : List (Sign × Clauses)} (terms : ∀ part ∈ rest, part.2.IsTerm)
    (allowed : ∀ part ∈ rest, part.2.Allowed options)
    (few : read + rest.length ≤ max read options.maxTerms) {text : List Char}
    (ends : ∀ clauses : Clauses, clauses.Ends text) :
    links? options word read (signedChars rest ++ text) =
      (links? options word (read + rest.length) text).map fun found =>
        found.map (rest.map Form.link ++ ·) := by
  induction rest generalizing read with
  | nil =>
      change links? options word read text = _
      rcases links? options word read text with e | _ | links <;> rfl
  | cons part rest ih =>
      obtain ⟨sign, clauses⟩ := part
      obtain ⟨isTerm, others⟩ := List.forall_mem_cons.mp terms
      obtain ⟨fits, othersFit⟩ := List.forall_mem_cons.mp allowed
      have taken := isTerm.take?_sourceChars fits
        (Form.ends_signedChars_append clauses others ends)
      rw [List.length_cons] at few
      have found := ih others othersFit
        (show read + 1 + rest.length ≤ max (read + 1) options.maxTerms by omega)
      have counted : read + 1 + rest.length = read + (rest.length + 1) := by omega
      rw [Form.signedChars_cons, List.cons_append, List.append_assoc, links?_sign,
        if_neg (by omega), taken]
      simp only [isTerm.repeats_term, Option.isSome_none, Bool.false_eq_true, if_false, found,
        counted, List.length_cons]
      rcases links? options word (read + (rest.length + 1)) text with e | _ | links <;> rfl

/-- A term that is read without a repeat count is written at the start of the text. -/
theorem exists_isTerm_of_take? {options : Options} {text rest : List Char} {term : Term}
    (taken : Term.take? options text = .ok (some (term, rest))) (bare : term.repeats = none) :
    ∃ clauses : Clauses, clauses.IsTerm ∧ clauses.Allowed options ∧
      text = clauses.sourceChars ++ rest ∧ clauses.term = term := by
  obtain ⟨clauses, written, numeric, -, -, allowed, rfl⟩ := Term.take?_eq_ok_some_iff.mp taken
  have isTerm : clauses.IsTerm := ⟨numeric, Option.map_eq_none_iff.mp bare⟩
  exact ⟨clauses, isTerm, allowed, by rw [written, isTerm.chars_eq], rfl⟩

/-- A term that is read with a repeat count is written behind its numeral and `#`. -/
theorem exists_repeated_of_take? {options : Options} {text rest : List Char} {term : Term}
    {times : Nat} (taken : Term.take? options text = .ok (some (term, rest)))
    (repeated : term.repeats = some times) :
    ∃ (digits : List Char) (clauses : Clauses), Numeral digits ∧ clauses.IsTerm ∧
      value digits = times ∧ (1 ≤ times ∧ times ≤ maxRepeats) ∧ clauses.Allowed options ∧
        text = (clauses.repeated digits).chars ++ rest ∧ (clauses.repeated digits).term = term := by
  obtain ⟨clauses, written, numeric, -, fit, allowed, rfl⟩ := Term.take?_eq_ok_some_iff.mp taken
  obtain ⟨digits, counted, rfl⟩ := Option.map_eq_some_iff.mp repeated
  -- the same clauses without their repeat count
  let bare : Clauses := { clauses with repeats := none }
  have whole : bare.repeated digits = clauses := by
    rw [Clauses.repeated, ← counted]
  have isTerm : bare.IsTerm :=
    ⟨⟨by simp [bare], numeric.amount, numeric.keep, numeric.modifier⟩, rfl⟩
  refine ⟨digits, bare, numeric.repeats digits counted, isTerm, rfl, fit digits counted,
    ⟨allowed.singleDigit, allowed.amount, allowed.keep, allowed.modifier⟩, ?_, ?_⟩
  · rw [whole, written]
  · rw [whole]

/-- Links are read from signed terms only. -/
theorem exists_signedChars_of_links? {options : Options} {word : String} {read : Nat}
    {text : List Char} {links : List Link}
    (found : links? options word read text = .ok (some links)) :
    ∃ rest : List (Sign × Clauses), (∀ part ∈ rest, part.2.IsTerm) ∧
      (∀ part ∈ rest, part.2.Allowed options) ∧
      read + rest.length ≤ max read options.maxTerms ∧ text = signedChars rest ∧
      rest.map Form.link = links := by
  fun_induction links? options word read text generalizing links with
  | case1 read =>
      obtain rfl : [] = links := by simpa using found
      exact ⟨[], by simp, by simp, Nat.le_max_left _ _, rfl, rfl⟩
  | case9 read c text sign signed few term rest taken shorter bare links' found' ih =>
      obtain rfl : { sign, term } :: links' = links := by simpa using found
      obtain ⟨clauses, isTerm, fits, rfl, rfl⟩ :=
        exists_isTerm_of_take? taken (by simpa using bare)
      obtain ⟨others, terms, othersFit, count, rfl, rfl⟩ := ih found'
      refine ⟨(sign, clauses) :: others, List.forall_mem_cons.mpr ⟨isTerm, terms⟩,
        List.forall_mem_cons.mpr ⟨fits, othersFit⟩, ?_, ?_, rfl⟩
      · rw [List.length_cons]
        omega
      · rw [Form.signedChars_cons, Sign.ofChar?_eq_some signed]
  -- in all other cases nothing is read
  | _ => simp at found

/-! ## The whole word -/

/-- A word that begins with a repeated term is a batch or malformed. -/
theorem parse_of_batch_append {options : Options} {word : String} {times : List Char}
    {term : Clauses} (grammatical : (Form.batch times term).Grammatical)
    (allowed : (Form.batch times term).Allowed options) {text : List Char}
    (ends : ∀ clauses : Clauses, clauses.Ends text)
    (written : (Form.batch times term).chars ++ text = word.toList) :
    parse options word =
      if text.isEmpty then .ok (some (Form.batch times term).expression)
      else .error (.malformed word .repeatInChain) := by
  obtain ⟨numeral, isTerm⟩ := grammatical
  obtain ⟨timesFit, fits⟩ := allowed
  have taken := isTerm.take?_repeated fits numeral timesFit (ends _)
  rw [Clauses.chars_repeated] at taken
  unfold parse
  rw [← written, Form.chars, taken]
  rfl

/-- A word that begins with terms joined by signs is read as their links, and then what stands
behind them is read. -/
theorem parse_of_chain_append {options : Options} {word : String} {first : Clauses}
    {rest : List (Sign × Clauses)} (grammatical : (Form.chain first rest).Grammatical)
    (allowed : (Form.chain first rest).Allowed options) {text : List Char}
    (ends : ∀ clauses : Clauses, clauses.Ends text)
    (written : (Form.chain first rest).chars ++ text = word.toList) :
    parse options word =
      (links? options word (rest.length + 1) text).map fun found => found.map fun more =>
        .chain ({ sign := .plus, term := first.term } :: (rest.map Form.link ++ more)) := by
  obtain ⟨isTerm, others⟩ := grammatical
  obtain ⟨few, fits, othersFit⟩ := allowed
  have taken : Term.take? options ((Form.chain first rest).chars ++ text) =
      .ok (some (first.term, signedChars rest ++ text)) := by
    rw [Form.chars, List.append_assoc]
    exact isTerm.take?_sourceChars fits (Form.ends_signedChars_append first others ends)
  have found : links? options word 1 (signedChars rest ++ text) = _ :=
    links?_signedChars_append others othersFit (by omega) ends
  rw [Nat.add_comm 1] at found
  unfold parse
  rw [← written]
  simp only [taken, isTerm.repeats_term, found]
  rcases links? options word (rest.length + 1) text with e | _ | links <;> rfl

/-- A word in one of the two forms with its numbers in range is read as the form says. -/
theorem parse_of_derives {options : Options} {word : String} {form : Form}
    (derives : form.Derives word) (allowed : form.Allowed options) :
    parse options word = .ok (some form.expression) := by
  obtain ⟨grammatical, written⟩ := derives
  have whole : form.chars ++ [] = word.toList := by rw [List.append_nil, written]
  cases form with
  | batch times term => exact parse_of_batch_append grammatical allowed Clauses.ends_nil whole
  | chain first rest =>
      rw [parse_of_chain_append grammatical allowed Clauses.ends_nil whole, links?, Except.map,
        Option.map_some, List.append_nil]
      rfl

/-- Only a word in one of the two forms with its numbers in range is read as an expression. -/
theorem exists_form_of_parse {options : Options} {word : String} {expression : Expression}
    (parsed : parse options word = .ok (some expression)) :
    ∃ form : Form, form.Derives word ∧ form.Allowed options ∧ form.expression = expression := by
  unfold parse at parsed
  rcases taken : Term.take? options word.toList with e | _ | ⟨term, rest⟩
  · simp [taken] at parsed
  · simp [taken] at parsed
  · simp only [taken] at parsed
    rcases repeated : term.repeats with _ | times
    · simp only [repeated] at parsed
      rcases found : links? options word 1 rest with e | _ | links
      · simp [found] at parsed
      · simp [found] at parsed
      · obtain rfl : Expression.chain ({ sign := .plus, term } :: links) = expression := by
          simpa [found] using parsed
        obtain ⟨first, isTerm, fits, written, rfl⟩ := exists_isTerm_of_take? taken repeated
        obtain ⟨others, terms, othersFit, count, rfl, rfl⟩ := exists_signedChars_of_links? found
        exact ⟨.chain first others, ⟨⟨isTerm, terms⟩, written.symm⟩,
          ⟨by omega, fits, othersFit⟩, rfl⟩
    · simp only [repeated] at parsed
      obtain ⟨digits, clauses, numeral, isTerm, rfl, timesFit, fits, written, rfl⟩ :=
        exists_repeated_of_take? taken repeated
      split at parsed
      · next ended =>
        obtain rfl := List.isEmpty_iff.mp ended
        obtain rfl : Expression.batch _ _ = expression := by simpa using parsed
        refine ⟨.batch digits clauses, ⟨⟨numeral, isTerm⟩, ?_⟩, ⟨timesFit, fits⟩, rfl⟩
        rw [written, List.append_nil, Clauses.chars_repeated]
        rfl
      · simp at parsed

theorem mem_plainChars_of_parse {options : Options} {word : String} {expression : Expression}
    (parsed : parse options word = .ok (some expression)) :
    ∀ c ∈ word.toList, c ∈ Text.plainChars := by
  obtain ⟨form, derives, -, -⟩ := exists_form_of_parse parsed
  rw [← derives.chars]
  exact Form.plain_chars derives.grammatical

/-- Only a word that is terms joined by signs is read as a chain. -/
theorem exists_chain_of_parse {options : Options} {word : String} {links : List Link}
    (parsed : parse options word = .ok (some (.chain links))) :
    ∃ first rest, (Form.chain first rest).Derives word ∧ (Form.chain first rest).Allowed options ∧
      { sign := .plus, term := first.term } :: rest.map Form.link = links := by
  obtain ⟨form, derives, allowed, read⟩ := exists_form_of_parse parsed
  cases form with
  | batch times term => simp [Form.expression] at read
  | chain first rest => exact ⟨first, rest, derives, allowed, by simpa [Form.expression] using read⟩

/-- Only a word that is one repeated term is read as a batch. -/
theorem exists_batch_of_parse {options : Options} {word : String} {times : Nat} {term : Term}
    (parsed : parse options word = .ok (some (.batch times term))) :
    ∃ digits clauses, (Form.batch digits clauses).Derives word ∧
      (Form.batch digits clauses).Allowed options ∧ value digits = times ∧
        (clauses.repeated digits).term = term := by
  obtain ⟨form, derives, allowed, read⟩ := exists_form_of_parse parsed
  cases form with
  | batch digits clauses =>
      exact ⟨digits, clauses, derives, allowed, by simpa [Form.expression] using read⟩
  | chain first rest => simp [Form.expression] at read

/-- **Which words are expressions.** A word is read as a chain exactly when it is written
`T ((+|-) T)*`, and as a batch exactly when it is written `D # T`, with its numbers in range and not
too many terms. It has one form only, and the expression has the signs of this form, with a plus in
front, and its decimal values. -/
theorem parse_accepts_grammar (options : Options) (word : String) :
    ((∃ links, parse options word = .ok (some (.chain links))) ↔
      word.toList ∈ Grammar.chain ∧ ∀ form : Form, form.Derives word → form.Allowed options) ∧
    ((∃ times term, parse options word = .ok (some (.batch times term))) ↔
      word.toList ∈ Grammar.batch ∧ ∀ form : Form, form.Derives word → form.Allowed options) ∧
    ∀ expression, parse options word = .ok (some expression) ↔
      ∃ form : Form, (∀ other : Form, other.Derives word ↔ other = form) ∧
        form.Allowed options ∧ form.expression = expression := by
  refine ⟨⟨?_, ?_⟩, ⟨?_, ?_⟩, fun expression => ⟨?_, ?_⟩⟩
  · rintro ⟨links, parsed⟩
    obtain ⟨first, rest, derives, allowed, -⟩ := exists_chain_of_parse parsed
    refine ⟨Grammar.mem_chain_iff.mpr ⟨first, rest, derives⟩, fun form again => ?_⟩
    rwa [again.unique derives]
  · rintro ⟨member, allowed⟩
    obtain ⟨first, rest, derives⟩ := Grammar.mem_chain_iff.mp member
    exact ⟨_, parse_of_derives derives (allowed _ derives)⟩
  · rintro ⟨times, term, parsed⟩
    obtain ⟨digits, clauses, derives, allowed, -⟩ := exists_batch_of_parse parsed
    refine ⟨Grammar.mem_batch_iff.mpr ⟨digits, clauses, derives⟩, fun form again => ?_⟩
    rwa [again.unique derives]
  · rintro ⟨member, allowed⟩
    obtain ⟨digits, clauses, derives⟩ := Grammar.mem_batch_iff.mp member
    exact ⟨_, _, parse_of_derives derives (allowed _ derives)⟩
  · intro parsed
    obtain ⟨form, derives, allowed, read⟩ := exists_form_of_parse parsed
    refine ⟨form, fun other => ⟨fun again => again.unique derives, ?_⟩, allowed, read⟩
    rintro rfl
    exact derives
  · rintro ⟨form, only, allowed, rfl⟩
    exact parse_of_derives ((only form).mpr rfl) allowed

end Expression

end DiceWords
