import DiceWords.Expression
import DiceWords.Proofs.Term.Reading
import DiceWords.Proofs.Text.Plain

/-! # How an expression is written

A word that is an expression has one of two forms: a numeral, `#` and a term, or terms joined by
signs. A form knows its numbers as they are written, so a word has at most one (`eq_of_chars_eq`),
and what the word is read as can be computed from its form (`Form.expression`). -/

namespace DiceWords

open Text (Numeral plainChars)

/-- A sign is plain. -/
theorem Sign.char_mem_plainChars (sign : Sign) : sign.char ∈ plainChars := by
  cases sign <;> decide

namespace Clauses

/-- Clauses with numerals are written in plain characters. -/
theorem Numeric.plain {clauses : Clauses} (numeric : clauses.Numeric) :
    ∀ c ∈ clauses.chars, c ∈ plainChars := by
  have digits {run : List Char} (numeral : Numeral run) : ∀ c ∈ run, c ∈ plainChars :=
    fun c member => Text.mem_plainChars_of_isDigit (numeral.isDigit c member)
  have repeatsPlain : ∀ c ∈ repeatsChars clauses.repeats, c ∈ plainChars := by
    rcases written : clauses.repeats with _ | run
    · simp [repeatsChars]
    · exact List.forall_mem_append.mpr ⟨digits (numeric.repeats run written),
        List.forall_mem_singleton.mpr (by decide)⟩
  have letterPlain : clauses.die.letter ∈ plainChars := by
    cases clauses.die <;> decide
  have keepPlain : ∀ c ∈ keepChars clauses.keep, c ∈ plainChars := by
    rcases written : clauses.keep with _ | ⟨side, run⟩
    · simp [keepChars]
    · refine List.forall_mem_append.mpr ⟨Text.forall_mem_of_all ?_, digits (numeric.keep _ written)⟩
      cases side <;> decide
  have modifierPlain : ∀ c ∈ modifierChars clauses.modifier, c ∈ plainChars := by
    rcases written : clauses.modifier with _ | ⟨sign, run⟩
    · simp [modifierChars]
    · exact List.forall_mem_cons.mpr
        ⟨sign.char_mem_plainChars, digits (numeric.modifier _ written)⟩
  simp only [chars, sourceChars, List.forall_mem_append, List.forall_mem_cons]
  exact ⟨repeatsPlain, ⟨digits numeric.amount, letterPlain, keepPlain⟩, modifierPlain⟩

/-- One term, `D (f|r|t) [(kh|kl) D] [(+|-) D]`, where each `D` is a numeral. -/
structure IsTerm (clauses : Clauses) : Prop extends Numeric clauses where
  bare : clauses.repeats = none

/-- The term with a repeat count in front. -/
def repeated (times : List Char) (clauses : Clauses) : Clauses :=
  { clauses with repeats := some times }

/-- A single term is written as its source. -/
theorem IsTerm.chars_eq {clauses : Clauses} (isTerm : clauses.IsTerm) :
    clauses.chars = clauses.sourceChars := by
  simp [chars, repeatsChars, isTerm.bare]

/-- A repeated term is written as the numeral, `#` and the source. -/
theorem chars_repeated (times : List Char) (clauses : Clauses) :
    (clauses.repeated times).chars = times ++ '#' :: clauses.sourceChars := by
  simp [chars, repeatsChars, repeated, sourceChars]

/-- A single term with a numeral for a repeat count has numerals throughout. -/
theorem IsTerm.numeric_repeated {clauses : Clauses} (isTerm : clauses.IsTerm) {times : List Char}
    (numeral : Numeral times) : (clauses.repeated times).Numeric where
  repeats := by simpa [repeated] using numeral
  amount := isTerm.amount
  keep := isTerm.keep
  modifier := isTerm.modifier

/-- A repeat count is the only difference between a term and its repetition. -/
theorem IsTerm.eq_of_repeated_eq {first second : Clauses} {times again : List Char}
    (isTerm : first.IsTerm) (isTerm' : second.IsTerm)
    (same : first.repeated times = second.repeated again) : times = again ∧ first = second := by
  obtain ⟨repeats, amount, die, keep, modifier⟩ := first
  obtain ⟨repeats', amount', die', keep', modifier'⟩ := second
  obtain rfl : repeats = none := isTerm.bare
  obtain rfl : repeats' = none := isTerm'.bare
  simpa [repeated] using same

/-- A sign in front of a term leads on to it. -/
theorem IsTerm.leads {clauses : Clauses} (isTerm : clauses.IsTerm) (sign : Sign)
    (rest : List Char) : Leads (sign.char :: (clauses.sourceChars ++ rest)) :=
  ⟨sign, clauses.amount,
    clauses.die.letter :: (keepChars clauses.keep ++ (modifierChars clauses.modifier ++ rest)),
    by simp only [sourceChars, List.append_assoc, List.cons_append], isTerm.amount,
    continuesTerm_letter _ _⟩

end Clauses

/-- How a word is put together from terms. -/
inductive Form where
  /-- `D # T`. -/
  | batch (times : List Char) (term : Clauses)
  /-- `T ((+|-) T)*`. -/
  | chain (first : Clauses) (rest : List (Sign × Clauses))
deriving DecidableEq, Repr

namespace Form

/-- Terms, each behind its sign. -/
def signedChars (rest : List (Sign × Clauses)) : List Char :=
  rest.flatMap fun part => part.1.char :: part.2.sourceChars

/-- The form as it is written. -/
def chars : Form → List Char
  | batch times term => times ++ '#' :: term.sourceChars
  | chain first rest => first.sourceChars ++ signedChars rest

/-- The parts of the form are numerals and terms. -/
def Grammatical : Form → Prop
  | batch times term => Numeral times ∧ term.IsTerm
  | chain first rest => first.IsTerm ∧ ∀ part ∈ rest, part.2.IsTerm

/-- A word is written in a form. -/
structure Derives (form : Form) (word : String) : Prop where
  grammatical : form.Grammatical
  chars : form.chars = word.toList

/-- The clauses that a word of this form begins with. -/
def head : Form → Clauses
  | batch times term => term.repeated times
  | chain first _ => first

/-- What follows the first term of a word of this form. -/
def tail : Form → List Char
  | batch _ _ => []
  | chain _ rest => signedChars rest

/-- A word is its first term and what follows it. -/
theorem chars_eq {form : Form} (grammatical : form.Grammatical) :
    form.chars = form.head.chars ++ form.tail := by
  cases form with
  | batch times term => simp [chars, head, tail, Clauses.chars_repeated]
  | chain first rest => simp [chars, head, tail, grammatical.1.chars_eq]

/-- Signed terms are written one behind another. -/
theorem signedChars_cons (sign : Sign) (clauses : Clauses) (rest : List (Sign × Clauses)) :
    signedChars ((sign, clauses) :: rest) =
      sign.char :: (clauses.sourceChars ++ signedChars rest) := by
  simp [signedChars]

/-- The signs behind a term end it, and so does what ends every term. -/
theorem ends_signedChars_append (clauses : Clauses) {rest : List (Sign × Clauses)}
    (terms : ∀ part ∈ rest, part.2.IsTerm) {text : List Char}
    (ends : ∀ clauses : Clauses, clauses.Ends text) : clauses.Ends (signedChars rest ++ text) := by
  cases rest with
  | nil => exact ends clauses
  | cons part rest =>
      obtain ⟨sign, next⟩ := part
      rw [signedChars_cons, List.cons_append, List.append_assoc]
      exact clauses.ends_of_leads ((terms _ List.mem_cons_self).leads sign _)

/-- A sign or the end of the word ends each term in front of it. -/
theorem ends_signedChars (clauses : Clauses) {rest : List (Sign × Clauses)}
    (terms : ∀ part ∈ rest, part.2.IsTerm) : clauses.Ends (signedChars rest) := by
  have ends := ends_signedChars_append clauses terms Clauses.ends_nil
  rwa [List.append_nil] at ends

/-- The first term is found as it stands in its form. -/
theorem match?_chars {form : Form} (grammatical : form.Grammatical) :
    Clauses.match? form.chars = some (form.head, form.tail) := by
  rw [Clauses.match?_eq_some_iff]
  refine ⟨chars_eq grammatical, ?_⟩
  cases form with
  | batch times term =>
      exact ⟨grammatical.2.numeric_repeated grammatical.1, Clauses.ends_nil _⟩
  | chain first rest => exact ⟨grammatical.1.toNumeric, ends_signedChars first grammatical.2⟩

/-- What has a form is written in plain characters. -/
theorem plain_chars {form : Form} (grammatical : form.Grammatical) :
    ∀ c ∈ form.chars, c ∈ plainChars := by
  cases form with
  | batch times term =>
      obtain ⟨numeral, isTerm⟩ := grammatical
      rw [chars, ← Clauses.chars_repeated]
      exact (isTerm.numeric_repeated numeral).plain
  | chain first rest =>
      obtain ⟨isTerm, terms⟩ := grammatical
      rw [chars, ← isTerm.chars_eq]
      refine List.forall_mem_append.mpr ⟨isTerm.plain, fun c member => ?_⟩
      obtain ⟨part, listed, written⟩ := List.mem_flatMap.mp member
      rcases List.mem_cons.mp written with rfl | written
      · exact part.1.char_mem_plainChars
      · rw [← (terms part listed).chars_eq] at written
        exact (terms part listed).plain c written

/-! ## A word has one form -/

/-- What is found first in a word does not depend on the form it is written in. -/
theorem head_tail_eq_of_chars_eq {form other : Form} (grammatical : form.Grammatical)
    (grammatical' : other.Grammatical) (same : form.chars = other.chars) :
    form.head = other.head ∧ form.tail = other.tail := by
  have found := match?_chars grammatical
  rw [same, match?_chars grammatical'] at found
  obtain ⟨heads, tails⟩ := Prod.mk.inj (Option.some.inj found)
  exact ⟨heads.symm, tails.symm⟩

/-- Signed terms can be told from how they are written, since each is ended by the sign of the next.
-/
theorem eq_of_signedChars_eq {rest other : List (Sign × Clauses)}
    (terms : ∀ part ∈ rest, part.2.IsTerm) (others : ∀ part ∈ other, part.2.IsTerm)
    (same : signedChars rest = signedChars other) : rest = other := by
  induction rest generalizing other with
  | nil =>
      cases other with
      | nil => rfl
      | cons part other => simp [signedChars] at same
  | cons part rest ih =>
      cases other with
      | nil => simp [signedChars] at same
      | cons part' other =>
          obtain ⟨sign, clauses⟩ := part
          obtain ⟨sign', clauses'⟩ := part'
          rw [signedChars_cons, signedChars_cons] at same
          obtain ⟨signEq, behind⟩ := List.cons.inj same
          have grammatical : (chain clauses rest).Grammatical :=
            ⟨terms _ List.mem_cons_self, fun _ member => terms _ (List.mem_cons_of_mem _ member)⟩
          have grammatical' : (chain clauses' other).Grammatical :=
            ⟨others _ List.mem_cons_self, fun _ member => others _ (List.mem_cons_of_mem _ member)⟩
          -- behind the sign both are chains, so their first terms agree
          obtain ⟨heads, tails⟩ := head_tail_eq_of_chars_eq grammatical grammatical' behind
          obtain rfl : clauses = clauses' := heads
          obtain rfl : sign = sign' := by
            simpa using congrArg Sign.ofChar? signEq
          rw [ih grammatical.2 grammatical'.2 tails]

/-- **A word has one form.** -/
theorem eq_of_chars_eq {form other : Form} (grammatical : form.Grammatical)
    (grammatical' : other.Grammatical) (same : form.chars = other.chars) : form = other := by
  obtain ⟨heads, tails⟩ := head_tail_eq_of_chars_eq grammatical grammatical' same
  cases form with
  | batch times term =>
      cases other with
      | batch again term' =>
          obtain ⟨rfl, rfl⟩ := grammatical.2.eq_of_repeated_eq grammatical'.2 heads
          rfl
      | chain first rest =>
          have bare := grammatical'.1.bare
          rw [← show term.repeated times = first from heads] at bare
          contradiction
  | chain first rest =>
      cases other with
      | batch times term =>
          have bare := grammatical.1.bare
          rw [show first = term.repeated times from heads] at bare
          contradiction
      | chain first' rest' =>
          obtain rfl : first = first' := heads
          rw [eq_of_signedChars_eq grammatical.2 grammatical'.2 tails]

/-- **A word has at most one form.** -/
theorem Derives.unique {form other : Form} {word : String} (derives : form.Derives word)
    (again : other.Derives word) : form = other :=
  eq_of_chars_eq derives.grammatical again.grammatical (derives.chars.trans again.chars.symm)

end Form

end DiceWords
