import DiceWords.Proofs.Expression.Reading
import DiceWords.Proofs.Term.Extent

/-! # Reading a word by positions

A chain can be read with nothing kept of the word but a position in it: each round cuts the word at
the position, looks for a sign there and for a term behind the sign, and moves on by the length of
both. Such a reading goes astray when it cuts inside a character or behind the end of the word. It
never does (`parseByPositions_eq`), since only plain characters are ever read (`Reached.exists_at`),
and it comes to an end, since a round reads a sign, a digit and a letter at least
(`At.exists_of_goesOn`). What this means for the positions is said in bytes (`Reached.safe`). -/

namespace DiceWords

open Text (plainChars cut? utf8 byteSize)

namespace Expression

/-- How far the reading of a chain has come. -/
structure Reading where
  /-- How many bytes of the word have been read. -/
  position : Nat
  links : List Link
deriving DecidableEq, Repr

/-- What a round of the reading leads to. -/
inductive Round where
  /-- The word cannot be cut at the position. -/
  | astray
  | ends (answer : Except Error (Option Expression))
  | goesOn (reading : Reading)
deriving DecidableEq

namespace Reading

/-- The reading of a chain when its first term has been read. -/
def start (term : Term) : Reading where
  position := term.length
  links := [{ sign := .plus, term }]

/-- The reading when a sign and a term have been read as well. -/
def join (reading : Reading) (sign : Sign) (term : Term) : Reading where
  position := reading.position + 1 + term.length
  links := reading.links ++ [{ sign, term }]

@[simp] theorem join_position (reading : Reading) (sign : Sign) (term : Term) :
    (reading.join sign term).position = reading.position + 1 + term.length := rfl

@[simp] theorem join_links (reading : Reading) (sign : Sign) (term : Term) :
    (reading.join sign term).links = reading.links ++ [⟨sign, term⟩] := rfl

/-- The answer for the word when the links behind those read are known. -/
def answer (reading : Reading) (found : Except Error (Option (List Link))) :
    Except Error (Option Expression) :=
  found.map fun found => found.map fun links => .chain (reading.links ++ links)

/-- What is read behind a link goes behind it in the answer. -/
theorem answer_join (reading : Reading) (sign : Sign) (term : Term)
    (found : Except Error (Option (List Link))) :
    (reading.join sign term).answer found =
      reading.answer (found.map fun found => found.map ({ sign, term } :: ·)) := by
  rcases found with error | _ | links
  · rfl
  · rfl
  · simp [answer, Except.map]

variable (options : Options) (word : String) (reading : Reading)

/-- The rest of a round, behind the sign at the position. -/
def behindSign (sign : Sign) : Round :=
  match cut? (reading.position + 1) word.toList with
  | none => .astray
  | some (_, text) =>
    match Term.atStart options (String.ofList text) with
    | .error e => .ends (.error e)
    | .ok none => .ends (.error (.malformed word .missingDice))
    | .ok (some term) =>
      if term.repeats.isSome then .ends (.error (.malformed word .repeatInChain))
      else .goesOn (reading.join sign term)

/-- One round: the sign at the position and the term behind it. -/
def round : Round :=
  if word.utf8ByteSize ≤ reading.position then .ends (.ok (some (.chain reading.links)))
  else
    match cut? reading.position word.toList with
    | none => .astray
    | some (_, text) =>
      match text.head?.bind Sign.ofChar? with
      | none => .ends (.ok none)
      | some sign =>
        if options.maxTerms ≤ reading.links.length then
          .ends (.error (.malformed word .tooManyTerms))
        else reading.behindSign options word sign

variable {options word reading}

/-- A reading that goes on behind a sign has read one more link. -/
theorem exists_join_of_behindSign {sign : Sign} {next : Reading}
    (goesOn : reading.behindSign options word sign = .goesOn next) :
    ∃ term, next = reading.join sign term := by
  unfold behindSign at goesOn
  split at goesOn
  · cases goesOn
  · split at goesOn
    · cases goesOn
    · cases goesOn
    · split at goesOn
      · cases goesOn
      · cases goesOn
        exact ⟨_, rfl⟩

/-- A round that goes on is inside the word and joins a term. -/
theorem exists_join_of_round {next : Reading} (goesOn : reading.round options word = .goesOn next) :
    reading.position < word.utf8ByteSize ∧ ∃ sign term, next = reading.join sign term := by
  unfold round at goesOn
  split at goesOn
  · cases goesOn
  · next inside =>
    refine ⟨Nat.lt_of_not_le inside, ?_⟩
    split at goesOn
    · cases goesOn
    · split at goesOn
      · cases goesOn
      · split at goesOn
        · cases goesOn
        · exact ⟨_, exists_join_of_behindSign goesOn⟩

/-- Each round that goes on leaves less of the word. -/
theorem remaining_lt_of_round {next : Reading}
    (goesOn : reading.round options word = .goesOn next) :
    word.utf8ByteSize - next.position < word.utf8ByteSize - reading.position := by
  obtain ⟨inside, sign, term, rfl⟩ := exists_join_of_round goesOn
  rw [join_position]
  omega

/-- The answer that the rounds from here on come to, unless they go astray. -/
def run (options : Options) (word : String) (reading : Reading) :
    Option (Except Error (Option Expression)) :=
  match taken : reading.round options word with
  | .astray => none
  | .ends answer => some answer
  | .goesOn next =>
    have := remaining_lt_of_round taken
    next.run options word
termination_by word.utf8ByteSize - reading.position

/-- A round that ends gives the answer. -/
theorem run_of_ends {answer : Except Error (Option Expression)}
    (ends : reading.round options word = .ends answer) : reading.run options word = some answer := by
  rw [run]
  split <;> simp_all

/-- A round that goes on leaves the answer to the next ones. -/
theorem run_of_goesOn {next : Reading} (goesOn : reading.round options word = .goesOn next) :
    reading.run options word = next.run options word := by
  rw [run]
  split <;> simp_all

end Reading

/-- The expression that a whole word is, read by positions. -/
def parseByPositions (options : Options) (word : String) :
    Option (Except Error (Option Expression)) :=
  match Term.atStart options word with
  | .error e => some (.error e)
  | .ok none => some (.ok none)
  | .ok (some term) =>
    match term.repeats with
    | some times =>
      if term.length = word.utf8ByteSize then some (.ok (some (.batch times term)))
      else some (.error (.malformed word .repeatInChain))
    | none => (Reading.start term).run options word

/-! ## Where the rounds begin -/

namespace Reading

/-- The reading has come to the end of a first part of the word, which is plain. -/
structure At (word : String) (first rest : List Char) (reading : Reading) : Prop where
  whole : word.toList = first ++ rest
  plain : ∀ c ∈ first, c ∈ plainChars
  position : reading.position = first.length
  links : reading.links ≠ []

variable {options : Options} {word : String} {reading next : Reading} {first rest text : List Char}
  {sign : Sign} {term : Term}

namespace At

/-- The bytes of the word are those in front of the position and those behind it. -/
theorem utf8ByteSize_eq (here : At word first rest reading) :
    word.utf8ByteSize = reading.position + byteSize rest := by
  rw [← Text.byteSize_toList, here.whole, Text.byteSize_append, Text.byteSize_of_plain here.plain,
    here.position]

/-- **The word can be cut at the position of a reading.** -/
theorem cut?_eq (here : At word first rest reading) :
    cut? reading.position word.toList = some (first, rest) := by
  rw [here.position, here.whole]
  exact Text.cut?_length_of_plain here.plain rest

/-- While something is left to read, the position is within the word. -/
theorem inside {c : Char} (here : At word first (c :: text) reading) :
    ¬ word.utf8ByteSize ≤ reading.position := by
  have positive := c.utf8Size_pos
  rw [here.utf8ByteSize_eq, byteSize]
  omega

/-- Behind a sign the word can be cut again. -/
theorem cut?_sign (here : At word first (sign.char :: text) reading) :
    cut? (reading.position + 1) word.toList = some (first ++ [sign.char], text) := by
  have plain : ∀ c ∈ first ++ [sign.char], c ∈ plainChars :=
    List.forall_mem_append.mpr
      ⟨here.plain, List.forall_mem_singleton.mpr sign.char_mem_plainChars⟩
  have cut := Text.cut?_length_of_plain plain text
  rwa [List.length_append, List.length_singleton, ← here.position, List.append_assoc,
    List.singleton_append, ← here.whole] at cut

/-- At the end of the word all links have been read. -/
theorem round_nil (here : At word first [] reading) :
    reading.round options word = .ends (.ok (some (.chain reading.links))) := by
  have ended : word.utf8ByteSize ≤ reading.position := Nat.le_of_eq here.utf8ByteSize_eq
  rw [round, if_pos ended]

/-- Anything but a sign makes the word plain. -/
theorem round_other {c : Char} (here : At word first (c :: text) reading)
    (other : Sign.ofChar? c = none) : reading.round options word = .ends (.ok none) := by
  rw [round, if_neg here.inside, here.cut?_eq]
  simp only [List.head?_cons, Option.bind_some, other]

/-- Behind a sign a term has to follow, or the word is refused. -/
theorem round_sign (here : At word first (sign.char :: text) reading) :
    reading.round options word =
      if options.maxTerms ≤ reading.links.length then .ends (.error (.malformed word .tooManyTerms))
      else
        match Term.take? options text with
        | .error e => .ends (.error e)
        | .ok none => .ends (.error (.malformed word .missingDice))
        | .ok (some (term, _)) =>
          if term.repeats.isSome then .ends (.error (.malformed word .repeatInChain))
          else .goesOn (reading.join sign term) := by
  rw [round, if_neg here.inside, here.cut?_eq]
  simp only [List.head?_cons, Option.bind_some, Sign.ofChar?_char, behindSign, here.cut?_sign,
    Term.atStart, String.toList_ofList]
  rcases Term.take? options text with error | _ | ⟨term, rest⟩ <;> rfl

/-- A sign and the term behind it are three characters at least, and all of them are plain. -/
theorem join (here : At word first (sign.char :: text) reading)
    (taken : Term.take? options text = .ok (some (term, rest))) :
    ∃ part, sign.char :: text = part ++ rest ∧ 3 ≤ part.length ∧
      At word (first ++ part) rest (reading.join sign term) := by
  obtain ⟨part, rfl, plain, size, long⟩ := Term.exists_plain_of_take? taken
  refine ⟨sign.char :: part, rfl, Nat.succ_le_succ long, ?_, ?_, ?_, ?_⟩
  · rw [here.whole, List.append_assoc, List.cons_append]
  · exact List.forall_mem_append.mpr
      ⟨here.plain, List.forall_mem_cons.mpr ⟨sign.char_mem_plainChars, plain⟩⟩
  · rw [join_position, here.position, List.length_append, List.length_cons, size]
    omega
  · rw [join_links]
    exact List.append_ne_nil_of_right_ne_nil _ (List.cons_ne_nil _ _)

/-- **A round that goes on** reads three characters at least, all of them plain. -/
theorem exists_of_goesOn (here : At word first rest reading)
    (goesOn : reading.round options word = .goesOn next) :
    ∃ part behind, rest = part ++ behind ∧ 3 ≤ part.length ∧
      At word (first ++ part) behind next := by
  cases rest with
  | nil =>
      rw [here.round_nil] at goesOn
      cases goesOn
  | cons c text =>
      rcases signed : Sign.ofChar? c with _ | sign
      · rw [here.round_other signed] at goesOn
        cases goesOn
      · obtain rfl := Sign.ofChar?_eq_some signed
        rw [here.round_sign] at goesOn
        split at goesOn
        · cases goesOn
        · split at goesOn
          · cases goesOn
          · cases goesOn
          · next term behind taken =>
            split at goesOn
            · cases goesOn
            · cases goesOn
              obtain ⟨part, whole, long, there⟩ := here.join taken
              exact ⟨part, behind, whole, long, there⟩

/-- **The rounds from here on do not go astray**, and what they read are the links of the rest. -/
theorem run_eq (here : At word first rest reading) :
    reading.run options word =
      some (reading.answer (links? options word reading.links.length rest)) := by
  induction size : rest.length using Nat.strong_induction_on generalizing first rest reading with
  | _ n ih =>
    subst size
    cases rest with
    | nil =>
      rw [run_of_ends here.round_nil, links?, answer, Except.map, Option.map_some, List.append_nil]
    | cons c text =>
      rcases signed : Sign.ofChar? c with _ | sign
      · rw [run_of_ends (here.round_other signed), links?]
        simp only [signed]
        rfl
      · obtain rfl := Sign.ofChar?_eq_some signed
        have round : reading.round options word = _ := here.round_sign
        rw [links?_sign]
        by_cases many : options.maxTerms ≤ reading.links.length
        · rw [if_pos many] at round ⊢
          exact run_of_ends round
        · rw [if_neg many] at round ⊢
          rcases taken : Term.take? options text with error | _ | ⟨term, behind⟩
          · rw [taken] at round
            exact run_of_ends round
          · rw [taken] at round
            exact run_of_ends round
          · rw [taken] at round
            by_cases repeated : term.repeats.isSome
            · simp only [if_pos repeated] at round ⊢
              exact run_of_ends round
            · simp only [if_neg repeated] at round ⊢
              obtain ⟨part, whole, long, there⟩ := here.join taken
              have shorter : behind.length < (sign.char :: text).length :=
                Nat.lt_succ_of_lt (Term.length_rest_lt_of_take? taken)
              rw [run_of_goesOn round, ih _ shorter there rfl, answer_join, join_links,
                List.length_append, List.length_singleton]

/-- A position is within the word or at its end. -/
theorem position_le (here : At word first rest reading) : reading.position ≤ word.utf8ByteSize := by
  rw [here.utf8ByteSize_eq]
  exact Nat.le_add_right _ _

/-- A position stands between two characters. -/
theorem isValid (here : At word first rest reading) :
    String.Pos.Raw.IsValid word ⟨reading.position⟩ := by
  rw [← Text.isSome_cut?_iff, here.cut?_eq]
  rfl

/-- All that has been read is ASCII. -/
theorem ascii (here : At word first rest reading) :
    ∀ byte ∈ word.toUTF8.data.toList.take reading.position, byte.toNat < 128 := by
  have size : reading.position = (utf8 first).length := by
    rw [here.position, Text.length_utf8, Text.byteSize_of_plain here.plain]
  rw [Text.toList_toUTF8, here.whole, utf8, List.flatMap_append]
  change ∀ byte ∈ (utf8 first ++ utf8 rest).take reading.position, byte.toNat < 128
  rw [size, List.take_left]
  exact Text.toNat_lt_of_mem_utf8 here.plain

end At

/-- Behind its first term a word is at a position. -/
theorem at_start (taken : Term.take? options word.toList = .ok (some (term, rest))) :
    ∃ first, At word first rest (start term) := by
  obtain ⟨part, whole, plain, size, -⟩ := Term.exists_plain_of_take? taken
  exact ⟨part, whole, plain, size.symm, List.cons_ne_nil _ _⟩

/-- The readings of a word at the beginning of each round. -/
inductive Reached (options : Options) (word : String) : Reading → Prop
  | start {term : Term} (found : Term.atStart options word = .ok (some term))
      (bare : term.repeats = none) : Reached options word (start term)
  | next {reading next : Reading} (reached : Reached options word reading)
      (goesOn : reading.round options word = .goesOn next) : Reached options word next

/-- **Every round begins behind a plain part of the word.** -/
theorem Reached.exists_at (reached : Reached options word reading) :
    ∃ first rest, At word first rest reading := by
  induction reached with
  | start found bare =>
      obtain ⟨rest, taken⟩ := Term.atStart_eq_ok_some_iff.mp found
      obtain ⟨first, here⟩ := at_start taken
      exact ⟨first, rest, here⟩
  | next reached goesOn ih =>
      obtain ⟨first, rest, here⟩ := ih
      obtain ⟨part, behind, -, -, there⟩ := here.exists_of_goesOn goesOn
      exact ⟨first ++ part, behind, there⟩

/-- What holds when a round begins, said in bytes: the position is in the word or at its end, where
a character ends, and behind ASCII only; a link has been read; and a round that goes on moves on by
three bytes at least. -/
structure Safe (options : Options) (word : String) (reading : Reading) : Prop where
  position_le : reading.position ≤ word.utf8ByteSize
  isValid : String.Pos.Raw.IsValid word ⟨reading.position⟩
  ascii : ∀ byte ∈ word.toUTF8.data.toList.take reading.position, byte.toNat < 128
  links : reading.links ≠ []
  grows : ∀ next, reading.round options word = .goesOn next →
    reading.position + 3 ≤ next.position

/-- **Every round is safe.** -/
theorem Reached.safe (reached : Reached options word reading) : reading.Safe options word := by
  obtain ⟨first, rest, here⟩ := reached.exists_at
  refine ⟨here.position_le, here.isValid, here.ascii, here.links, fun next goesOn => ?_⟩
  obtain ⟨part, behind, -, long, there⟩ := here.exists_of_goesOn goesOn
  rw [here.position, there.position, List.length_append]
  omega

end Reading

/-- **Reading by positions never goes astray**, and it comes to the same answer. -/
theorem parseByPositions_eq (options : Options) (word : String) :
    parseByPositions options word = some (parse options word) := by
  unfold parseByPositions parse
  rcases taken : Term.take? options word.toList with error | _ | ⟨term, rest⟩
  · rw [Term.atStart_of_take?_error taken]
  · rw [Term.atStart_of_take?_none taken]
  · rw [Term.atStart_eq_ok_some_iff.mpr ⟨rest, taken⟩]
    obtain ⟨first, here⟩ := Reading.at_start taken
    rcases repeated : term.repeats with _ | times
    · simp only [repeated]
      rw [here.run_eq]
      change some ((Reading.start term).answer (links? options word 1 rest)) = _
      rcases links? options word 1 rest with error | _ | links <;> rfl
    · have size : word.utf8ByteSize = term.length + byteSize rest := here.utf8ByteSize_eq
      have ends : term.length = word.utf8ByteSize ↔ rest.isEmpty = true := by
        rw [List.isEmpty_iff, ← Text.byteSize_eq_zero_iff]
        omega
      simp only [repeated, ends]
      split <;> rfl

end Expression

end DiceWords
