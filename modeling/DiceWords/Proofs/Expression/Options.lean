import DiceWords.Proofs.Expression.Reading
import DiceWords.Proofs.Term.Counts

/-! # What the options change

The limit on terms is asked only where a sign follows the terms that have been read. So another
limit changes the reading of a word only if the reading ends there, and then as many terms as the
limit allows stand in front of that sign (`exists_chain_of_tooManyTerms`). The option for dice
counts of one digit is asked for every term, but it changes no term of a word whose dice counts have
one digit. As long as two sets of options read the same terms in a word, they give the same answer,
up to the lower of the two limits (`parse_upToLimit`). -/

namespace DiceWords

namespace Expression

open Form (signedChars)

variable {options other : Options} {word : String}

/-! ## Options that read the same terms -/

/-- Two answers for a word are the same, or the first is that there are too many terms for the lower
of two limits. -/
def UpToLimit (options other : Options) (word : String) {α : Type} (first second : Except Error α) :
    Prop :=
  second = first ∨
    (options.maxTerms < other.maxTerms ∧ first = .error (.malformed word .tooManyTerms))

theorem UpToLimit.map {α β : Type} {first second : Except Error α}
    (alike : UpToLimit options other word first second) (f : α → β) :
    UpToLimit options other word (first.map f) (second.map f) := by
  rcases alike with rfl | ⟨lower, rfl⟩
  · exact .inl rfl
  · exact .inr ⟨lower, rfl⟩

/-- A sign leads to the same, as long as the term behind it does. -/
theorem links?_sign_upToLimit (few : options.maxTerms ≤ other.maxTerms) (read : Nat) (sign : Sign)
    {text : List Char} (same : Term.take? other text = Term.take? options text)
    (behind : ∀ term rest, Term.take? options text = .ok (some (term, rest)) →
      UpToLimit options other word (links? options word (read + 1) rest)
        (links? other word (read + 1) rest)) :
    UpToLimit options other word (links? options word read (sign.char :: text))
      (links? other word read (sign.char :: text)) := by
  rw [links?_sign, links?_sign, same]
  by_cases many : options.maxTerms ≤ read
  · rw [if_pos many]
    by_cases manyToo : other.maxTerms ≤ read
    · rw [if_pos manyToo]
      exact .inl rfl
    · exact .inr ⟨by omega, rfl⟩
  · rw [if_neg many, if_neg (by omega)]
    rcases taken : Term.take? options text with error | _ | ⟨term, rest⟩
    · exact .inl rfl
    · exact .inl rfl
    · by_cases repeated : term.repeats.isSome
      · simp only [if_pos repeated]
        exact .inl rfl
      · simp only [if_neg repeated]
        exact (behind term rest taken).map _

/-- Two sets of options that read the same terms in a text read the same links. -/
theorem links?_upToLimit (few : options.maxTerms ≤ other.maxTerms) (word : String) (read : Nat)
    (text : List Char)
    (terms : ∀ part, part <:+ text → Term.take? other part = Term.take? options part) :
    UpToLimit options other word (links? options word read text) (links? other word read text) := by
  induction size : text.length using Nat.strong_induction_on generalizing read text with
  | _ n ih =>
    subst size
    cases text with
    | nil => exact .inl (by rw [links?, links?])
    | cons c text =>
      rcases signed : Sign.ofChar? c with _ | sign
      · left
        rw [links?, links?]
        simp only [signed]
      · have shorter := List.suffix_cons c text
        rw [Sign.ofChar?_eq_some signed]
        refine links?_sign_upToLimit few read sign (terms text shorter) fun term rest taken => ?_
        have inside := (Term.suffix_of_take? taken).trans shorter
        exact ih rest.length (Nat.lt_succ_of_lt (Term.length_rest_lt_of_take? taken)) (read + 1) rest
          (fun part within => terms part (within.trans inside)) rfl

/-- They read the same expression. -/
theorem parse_upToLimit (few : options.maxTerms ≤ other.maxTerms)
    (terms : ∀ part, part <:+ word.toList → Term.take? other part = Term.take? options part) :
    UpToLimit options other word (parse options word) (parse other word) := by
  unfold parse
  rw [terms word.toList List.suffix_rfl]
  rcases taken : Term.take? options word.toList with error | _ | ⟨term, rest⟩
  · exact .inl rfl
  · exact .inl rfl
  · have linked := links?_upToLimit few word 1 rest fun part within =>
      terms part (within.trans (Term.suffix_of_take? taken))
    rcases repeated : term.repeats with _ | times
    · simp only [repeated]
      rcases linked with same | ⟨lower, failed⟩
      · rw [same]
        exact .inl rfl
      · rw [failed]
        exact .inr ⟨lower, rfl⟩
    · simp only [repeated]
      exact .inl rfl

/-! ## Too many terms -/

/-- When there are too many terms, as many as the limit allows are in front of a further sign. -/
theorem exists_signedChars_of_tooManyTerms {input : String} {read : Nat} {text : List Char}
    (failed : links? options word read text = .error (.malformed input .tooManyTerms)) :
    ∃ (rest : List (Sign × Clauses)) (sign : Sign) (behind : List Char),
      (∀ part ∈ rest, part.2.IsTerm) ∧ (∀ part ∈ rest, part.2.Allowed options) ∧
        read + rest.length = max read options.maxTerms ∧
          text = signedChars rest ++ sign.char :: behind := by
  fun_induction links? options word read text with
  | case3 read c text sign signed many =>
      refine ⟨[], sign, text, List.forall_mem_nil _, List.forall_mem_nil _, ?_, ?_⟩
      · exact (Nat.max_eq_left many).symm
      · rw [Sign.ofChar?_eq_some signed]
        rfl
  | case4 read c text sign signed few error taken =>
      obtain ⟨why, rfl⟩ := Term.exists_invalid_of_take? taken
      cases failed
  | case7 read c text sign signed few term rest taken shorter bare error failed' ih =>
      cases failed
      obtain ⟨clauses, isTerm, fits, rfl, -⟩ := exists_isTerm_of_take? taken (by simpa using bare)
      obtain ⟨others, further, behind, terms, othersFit, count, rfl⟩ := ih failed'
      refine ⟨(sign, clauses) :: others, further, behind,
        List.forall_mem_cons.mpr ⟨isTerm, terms⟩, List.forall_mem_cons.mpr ⟨fits, othersFit⟩, ?_, ?_⟩
      · rw [List.length_cons]
        omega
      · rw [Form.signedChars_cons, Sign.ofChar?_eq_some signed, List.cons_append,
          List.append_assoc]
  -- in all other cases the reading ends otherwise
  | _ => simp at failed

/-- **When there are too many terms.** The word begins with as many terms as the limit allows, and
with one at least, and a sign follows them. -/
theorem exists_chain_of_tooManyTerms {input : String}
    (failed : parse options word = .error (.malformed input .tooManyTerms)) :
    ∃ (first : Clauses) (rest : List (Sign × Clauses)) (sign : Sign) (behind : List Char),
      (Form.chain first rest).Grammatical ∧ (Form.chain first rest).Allowed options ∧
        rest.length + 1 = max 1 options.maxTerms ∧
          word.toList = (Form.chain first rest).chars ++ sign.char :: behind := by
  unfold parse at failed
  rcases taken : Term.take? options word.toList with error | _ | ⟨term, rest⟩
  · rw [taken] at failed
    cases failed
    obtain ⟨why, invalid⟩ := Term.exists_invalid_of_take? taken
    cases invalid
  · rw [taken] at failed
    cases failed
  · simp only [taken] at failed
    rcases repeated : term.repeats with _ | times
    · simp only [repeated] at failed
      rcases found : links? options word 1 rest with error | _ | links
      · simp only [found] at failed
        cases failed
        obtain ⟨first, isTerm, fits, written, -⟩ := exists_isTerm_of_take? taken repeated
        obtain ⟨others, sign, behind, terms, othersFit, count, rfl⟩ :=
          exists_signedChars_of_tooManyTerms found
        refine ⟨first, others, sign, behind, ⟨isTerm, terms⟩, ⟨by omega, fits, othersFit⟩,
          by omega, ?_⟩
        rw [written, Form.chars, List.append_assoc]
      · simp [found] at failed
      · simp [found] at failed
    · simp only [repeated] at failed
      split at failed
      · cases failed
      · cases failed

/-! ## The options -/

/-- **The options change an answer only where they say so.** A higher limit on terms changes the
answer for a word only if there were too many terms, and this is the answer only if the word begins
with as many terms as the limit allows, one at least, and a sign behind them. In a word whose dice
counts have one digit, the option for such counts changes nothing, whatever the limit is. -/
theorem parse_options (word : String) :
    (∀ (options : Options) (more : Nat), options.maxTerms ≤ more →
      parse { options with maxTerms := more } word = parse options word ∨
        parse options word = .error (.malformed word .tooManyTerms)) ∧
    (∀ (options : Options) (input : String),
      parse options word = .error (.malformed input .tooManyTerms) →
        ∃ (first : Clauses) (rest : List (Sign × Clauses)) (sign : Sign) (behind : List Char),
          (Form.chain first rest).Grammatical ∧ (Form.chain first rest).Allowed options ∧
            rest.length + 1 = max 1 options.maxTerms ∧
              word.toList = (Form.chain first rest).chars ++ sign.char :: behind) ∧
    (SingleDigitCounts word.toList → ∀ limit : Nat,
      parse { singleDigit := true, maxTerms := limit } word =
        parse { singleDigit := false, maxTerms := limit } word) := by
  refine ⟨?_, ?_, ?_⟩
  · intro options more few
    have terms (part : List Char) :
        Term.take? { options with maxTerms := more } part = Term.take? options part := rfl
    have alike : UpToLimit options { options with maxTerms := more } word _ _ :=
      parse_upToLimit few fun part _ => terms part
    exact alike.imp_right And.right
  · exact fun options input => exists_chain_of_tooManyTerms
  · intro counts limit
    have terms (part : List Char) (inside : part <:+ word.toList) :
        Term.take? { singleDigit := true, maxTerms := limit } part =
          Term.take? { singleDigit := false, maxTerms := limit } part := by
      obtain ⟨before, whole⟩ := inside
      rw [← whole] at counts
      exact Term.take?_singleDigit counts.of_append limit
    rcases parse_upToLimit (Nat.le_refl limit) terms with same | ⟨lower, -⟩
    · exact same
    · exact absurd lower (Nat.lt_irrefl limit)

/-- Two terms, the second with a modifier of two digits, are one too many for a limit of one. -/
theorem parse_options_two_terms :
    (1 ≤ 2 ∧ (parse { maxTerms := 2 } "1f+2r-12" = parse { maxTerms := 1 } "1f+2r-12" ∨
      parse { maxTerms := 1 } "1f+2r-12" = .error (.malformed "1f+2r-12" .tooManyTerms))) ∧
    (parse { maxTerms := 1 } "1f+2r-12" = .error (.malformed "1f+2r-12" .tooManyTerms) ∧
      ∃ first rest sign behind, (Form.chain first rest).Grammatical ∧
        (Form.chain first rest).Allowed { maxTerms := 1 } ∧ rest.length + 1 = max 1 1 ∧
          "1f+2r-12".toList = (Form.chain first rest).chars ++ Sign.char sign :: behind) ∧
    SingleDigitCounts "1f+2r-12".toList ∧
      parse { singleDigit := true, maxTerms := 2 } "1f+2r-12" =
        parse { singleDigit := false, maxTerms := 2 } "1f+2r-12" := by
  obtain ⟨limits, tooMany, single⟩ := parse_options "1f+2r-12"
  have failed : parse { maxTerms := 1 } "1f+2r-12" =
      .error (.malformed "1f+2r-12" .tooManyTerms) := by
    decide +kernel
  have counts : SingleDigitCounts "1f+2r-12".toList := by decide
  exact ⟨⟨by decide, limits { maxTerms := 1 } 2 (by decide)⟩, ⟨failed, tooMany _ _ failed⟩, counts,
    single counts 2⟩

end Expression

end DiceWords
