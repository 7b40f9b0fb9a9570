import DiceWords.Proofs.Text.Numeral
import DiceWords.Sign
import DiceWords.Text.Blank
import Mathlib.Data.List.SplitBy

/-! # Written arithmetic

What a written sum stands for. A text falls apart into numbers and marks, and blanks only separate
them (`tokens`). A reader takes the tokens one after another: signs associate to the left, a minus
may lead, parentheses group, and a list in brackets is one operand, the sum of its numbers that are
not struck through (`read?`). It knows nothing of dice, so what is printed as a calculation can be
measured against it. -/

namespace DiceWords

/-- A number with the sign applied, of any size. -/
def Sign.exact : Sign → Int → Int
  | plus, n => n
  | minus, n => -n

namespace Arithmetic

/-! ## Tokens -/

/-- A number, or a character that is no digit and not blank. -/
inductive Token where
  | number (n : Nat)
  | mark (c : Char)
deriving DecidableEq, Repr

/-- The token that a run is; a blank is none. -/
def Token.ofRun? (run : List Char) : Option Token :=
  if run.all Char.isDigit then some (.number (Text.value run))
  else (run.find? fun c => !Text.isBlank c).map .mark

/-- The tokens of a text. Digits that stand together are one number. -/
def tokens (text : List Char) : List Token :=
  (text.splitBy fun left right => left.isDigit && right.isDigit).filterMap Token.ofRun?

@[simp] theorem tokens_nil : tokens [] = [] := rfl

/-- A run of digits, or one character of another kind, makes up what is cut off in front. -/
theorem tokens_append_run {run rest : List Char} (nonempty : run ≠ [])
    (joined : run.IsChain fun left right => (left.isDigit && right.isDigit) = true)
    (edge : ∀ c ∈ run.getLast?, ∀ d ∈ rest.head?, (c.isDigit && d.isDigit) = false) :
    tokens (run ++ rest) = (Token.ofRun? run).toList ++ tokens rest := by
  rw [tokens, List.splitBy_append edge, List.splitBy_of_isChain nonempty joined,
    List.singleton_append, List.filterMap_cons, tokens]
  cases Token.ofRun? run <;> rfl

/-- A numeral is read as its number. -/
theorem tokens_numeral {digits rest : List Char} (numeral : Text.Numeral digits)
    (stops : Text.startsDigit rest = false) :
    tokens (digits ++ rest) = .number (Text.value digits) :: tokens rest := by
  have allDigits : digits.all Char.isDigit = true := List.all_eq_true.mpr numeral.isDigit
  have joined : digits.IsChain fun left right => (left.isDigit && right.isDigit) = true := by
    apply List.Pairwise.isChain
    apply List.pairwise_of_forall_mem_list
    intro c member d member'
    rw [numeral.isDigit c member, numeral.isDigit d member', Bool.and_self]
  have edge : ∀ c ∈ digits.getLast?, ∀ d ∈ rest.head?, (c.isDigit && d.isDigit) = false := by
    intro c _ d next
    rw [Text.startsDigit_eq_false_iff.mp stops d next, Bool.and_false]
  rw [tokens_append_run numeral.nonempty joined edge, Token.ofRun?, if_pos allDigits]
  rfl

/-- Any character but a digit is a token of its own, unless it is blank. -/
theorem tokens_cons {c : Char} (other : c.isDigit = false) (rest : List Char) :
    tokens (c :: rest) =
      (if Text.isBlank c then [] else [.mark c]) ++ tokens rest := by
  have edge : ∀ d ∈ [c].getLast?, ∀ e ∈ rest.head?, (d.isDigit && e.isDigit) = false := by
    simp [other]
  rw [← List.singleton_append, tokens_append_run (List.cons_ne_nil c []) (.singleton c) edge]
  cases blank : Text.isBlank c <;> simp [Token.ofRun?, other, blank]

/-- A character that is no digit ends whatever stands in front of it. -/
theorem tokens_append_cons {c : Char} (other : c.isDigit = false) (text rest : List Char) :
    tokens (text ++ c :: rest) = tokens text ++ tokens (c :: rest) := by
  have edge : ∀ d ∈ text.getLast?, ∀ e ∈ (c :: rest).head?, (d.isDigit && e.isDigit) = false := by
    simp [other]
  rw [tokens, List.splitBy_append edge, List.filterMap_append]
  rfl

/-! ## Lists -/

/-- A number in a list, and whether it counts. -/
structure Entry where
  value : Int
  counts : Bool
deriving DecidableEq, Repr

namespace Entry

/-- The entry that some tokens are. It does not count when it is struck through. -/
def ofTokens? : List Token → Option Entry
  | [.number n] => some ⟨n, true⟩
  | [.mark '-', .number n] => some ⟨-n, true⟩
  | [.mark '~', .mark '~', .number n, .mark '~', .mark '~'] => some ⟨n, false⟩
  | [.mark '~', .mark '~', .mark '-', .number n, .mark '~', .mark '~'] => some ⟨-n, false⟩
  | _ => none

/-- The sum of the entries that count. -/
def sum (entries : List Entry) : Int :=
  ((entries.filter counts).map value).foldr (· + ·) 0

end Entry

/-- The entries of a list, given what stands between its brackets. -/
def entries? (inside : List Token) : Option (List Entry) :=
  if inside.isEmpty then some []
  else (inside.splitOn (.mark ',')).mapM Entry.ofTokens?

/-! ## Sums -/

/-- How far a sum has been read. -/
inductive Partial where
  /-- Nothing of it has been read. -/
  | start
  /-- A sign has been read, and a number must follow. -/
  | signed (sum : Int) (sign : Sign)
  /-- The sum may end here. -/
  | complete (sum : Int)
deriving DecidableEq, Repr

namespace Partial

/-- Read one operand. -/
def add? : Partial → Int → Option Partial
  | start, n => some (complete n)
  | signed sum sign, n => some (complete (sum + sign.exact n))
  | complete _, _ => none

/-- Read a sign. Only a minus may lead. -/
def sign? : Partial → Sign → Option Partial
  | start, .minus => some (signed 0 .minus)
  | complete sum, sign => some (signed sum sign)
  | _, _ => none

end Partial

/-- A reader of written sums. -/
structure Reader where
  /-- The sum that is being read. -/
  current : Partial := .start
  /-- The sums around it, the innermost first. -/
  outer : List Partial := []
  /-- What has been read of a list, when one is being read. -/
  list : Option (List Token) := none
deriving DecidableEq, Repr

namespace Reader

/-- Read one operand. -/
def add? (reader : Reader) (n : Int) : Option Reader :=
  (reader.current.add? n).map fun current => { reader with current }

/-- Close the parentheses around the current sum. -/
def close? (reader : Reader) : Option Reader :=
  match reader.current, reader.outer with
  | .complete n, current :: outer => add? { reader with current, outer } n
  | _, _ => none

/-- Read a mark outside lists. -/
def mark? (reader : Reader) : Char → Option Reader
  | '[' => some { reader with list := some [] }
  | '(' => some { reader with current := .start, outer := reader.current :: reader.outer }
  | ')' => reader.close?
  | c => do
    let sign ← Sign.ofChar? c
    let current ← reader.current.sign? sign
    return { reader with current }

/-- Read a token of a list, behind those inside it so far. -/
def inside? (reader : Reader) (inside : List Token) (token : Token) : Option Reader :=
  if token = .mark ']' then do
    let entries ← entries? inside
    add? { reader with list := none } (Entry.sum entries)
  else some { reader with list := some (inside ++ [token]) }

/-- Read one token. -/
def step? (reader : Reader) (token : Token) : Option Reader :=
  match reader.list, token with
  | some inside, token => reader.inside? inside token
  | none, .number n => reader.add? n
  | none, .mark c => reader.mark? c

/-- Read some tokens. -/
def run? (reader : Reader) (tokens : List Token) : Option Reader :=
  tokens.foldlM step? reader

/-- The sum, when it may end here and nothing is left open. -/
def result? (reader : Reader) : Option Int :=
  match reader with
  | { current := .complete n, outer := [], list := none } => some n
  | _ => none

end Reader

/-- What a written sum stands for, if it is one. -/
def read? (text : String) : Option Int := do
  let reader ← Reader.run? {} (tokens text.toList)
  reader.result?

/-! ## What is written -/

/-- The tokens of an integer. -/
def integer (n : Int) : List Token :=
  (if n < 0 then [.mark '-'] else []) ++ [.number n.natAbs]

/-- A number that is printed is read back. -/
theorem tokens_toDigits (n : Nat) {rest : List Char} (stops : Text.startsDigit rest = false) :
    tokens (Nat.toDigits 10 n ++ rest) = .number n :: tokens rest := by
  rw [tokens_numeral (Text.numeral_toDigits n) stops, Text.value_toDigits]

/-- So is an integer, with its sign. -/
theorem tokens_toString (n : Int) {rest : List Char} (stops : Text.startsDigit rest = false) :
    tokens ((toString n).toList ++ rest) = integer n ++ tokens rest := by
  rw [Text.toList_toString, integer, List.append_assoc]
  by_cases negative : n < 0
  · rw [if_pos negative, if_pos negative, List.singleton_append, tokens_cons rfl,
      tokens_toDigits n.natAbs stops]
    rfl
  · rw [if_neg negative, if_neg negative, List.nil_append, tokens_toDigits n.natAbs stops]
    rfl

namespace Entry

/-- The tokens of an entry, struck through when it does not count. -/
def tokens (entry : Entry) : List Token :=
  if entry.counts then integer entry.value
  else [.mark '~', .mark '~'] ++ integer entry.value ++ [.mark '~', .mark '~']

/-- An entry that is printed is read back. -/
theorem ofTokens?_tokens (entry : Entry) : ofTokens? entry.tokens = some entry := by
  obtain ⟨value, counts⟩ := entry
  by_cases negative : value < 0
  · have magnitude : -(value.natAbs : Int) = value := by omega
    cases counts <;>
      simp only [tokens, integer, negative, Bool.false_eq_true, if_true, if_false,
        List.cons_append, List.nil_append, ofTokens?, magnitude]
  · have magnitude : (value.natAbs : Int) = value := by omega
    cases counts <;>
      simp only [tokens, integer, negative, Bool.false_eq_true, if_true, if_false,
        List.cons_append, List.nil_append, ofTokens?, magnitude]

theorem tokens_ne_nil (entry : Entry) : entry.tokens ≠ [] := by
  intro none
  have found := ofTokens?_tokens entry
  rw [none] at found
  contradiction

/-- An entry holds no marks but a minus and strokes. -/
theorem mark_not_mem_tokens {c : Char} (minus : c ≠ '-') (tilde : c ≠ '~') (entry : Entry) :
    Token.mark c ∉ entry.tokens := by
  obtain ⟨value, counts⟩ := entry
  by_cases negative : value < 0 <;> cases counts <;> simp [tokens, integer, negative, minus, tilde]

end Entry

/-- The tokens between the brackets of a list. -/
def listed (entries : List Entry) : List Token :=
  [.mark ','].intercalate (entries.map Entry.tokens)

theorem listed_cons_cons (entry next : Entry) (rest : List Entry) :
    listed (entry :: next :: rest) = entry.tokens ++ .mark ',' :: listed (next :: rest) := by
  simp only [listed, List.map_cons, List.intercalate_cons_cons, List.append_assoc,
    List.singleton_append]

theorem listed_singleton (entry : Entry) : listed [entry] = entry.tokens :=
  List.intercalate_singleton

theorem listed_ne_nil (entry : Entry) (rest : List Entry) :
    listed (entry :: rest) ≠ [] := by
  cases rest with
  | nil =>
      rw [listed_singleton]
      exact entry.tokens_ne_nil
  | cons next rest =>
      rw [listed_cons_cons]
      exact List.append_ne_nil_of_left_ne_nil entry.tokens_ne_nil _

/-- **A list is read entry by entry.** -/
theorem entries?_listed (entries : List Entry) :
    entries? (listed entries) = some entries := by
  cases entries with
  | nil => rfl
  | cons entry rest =>
      have apart : ∀ written ∈ (entry :: rest).map Entry.tokens, Token.mark ',' ∉ written := by
        intro written member
        obtain ⟨source, -, rfl⟩ := List.mem_map.mp member
        exact source.mark_not_mem_tokens (by decide) (by decide)
      have pieces : (listed (entry :: rest)).splitOn (.mark ',') =
          (entry :: rest).map Entry.tokens :=
        List.splitOn_intercalate _ apart (List.cons_ne_nil _ _)
      have each (entries : List Entry) :
          (entries.map Entry.tokens).mapM Entry.ofTokens? = some entries := by
        induction entries with
        | nil => rfl
        | cons entry rest ih => simp [Entry.ofTokens?_tokens, ih]
      rw [entries?, if_neg (by simpa using listed_ne_nil entry rest), pieces, each]

/-- A list of entries holds no marks but those of the entries and commas. -/
theorem mark_not_mem_listed {c : Char} (minus : c ≠ '-') (tilde : c ≠ '~') (comma : c ≠ ',')
    (entries : List Entry) : Token.mark c ∉ listed entries := by
  induction entries with
  | nil => exact List.not_mem_nil
  | cons entry rest ih =>
      have first := entry.mark_not_mem_tokens minus tilde
      cases rest with
      | nil =>
          rw [listed_singleton]
          exact first
      | cons next rest =>
          rw [listed_cons_cons]
          simp [first, comma, ih]

/-- The bracket that ends a list does not occur in it. -/
theorem closing_not_mem_listed (entries : List Entry) : Token.mark ']' ∉ listed entries :=
  mark_not_mem_listed (by decide) (by decide) (by decide) entries

/-! ## Reading tokens -/

namespace Reader

/-- Tokens are read from the left. -/
theorem run?_cons (reader : Reader) (token : Token) (rest : List Token) :
    reader.run? (token :: rest) = (reader.step? token).bind fun next => next.run? rest :=
  List.foldlM_cons

/-- Inside a list, tokens are only gathered until it is closed. -/
theorem run?_inside {current : Partial} {outer : List Partial} {inside more rest : List Token}
    (unclosed : Token.mark ']' ∉ more) :
    run? ⟨current, outer, some inside⟩ (more ++ rest) =
      run? ⟨current, outer, some (inside ++ more)⟩ rest := by
  induction more generalizing inside with
  | nil => rw [List.append_nil, List.nil_append]
  | cons token more ih =>
      obtain ⟨other, others⟩ := not_or.mp (List.mem_cons.not.mp unclosed)
      have gathered : step? ⟨current, outer, some inside⟩ token =
          some ⟨current, outer, some (inside ++ [token])⟩ := if_neg (Ne.symm other)
      rw [List.cons_append, run?_cons, gathered, Option.bind_some, ih others, List.append_assoc,
        List.singleton_append]

/-- **A list is one operand.** -/
theorem run?_list {current : Partial} {outer : List Partial} (entries : List Entry)
    (rest : List Token) :
    run? ⟨current, outer, none⟩ (.mark '[' :: (listed entries ++ .mark ']' :: rest)) =
      (current.add? (Entry.sum entries)).bind fun next => run? ⟨next, outer, none⟩ rest := by
  have opened : step? ⟨current, outer, none⟩ (.mark '[') = some ⟨current, outer, some []⟩ := rfl
  have closed (inside : List Token) : step? ⟨current, outer, some inside⟩ (.mark ']') =
      (entries? inside).bind fun entries => add? ⟨current, outer, none⟩ (Entry.sum entries) :=
    rfl
  rw [run?_cons, opened, Option.bind_some, run?_inside (closing_not_mem_listed entries),
    List.nil_append, run?_cons, closed, entries?_listed, Option.bind_some, add?, Option.bind_map]
  rfl

/-- A sign behind a sum asks for one more operand. -/
theorem run?_sign {sum : Int} {outer : List Partial} (sign : Sign) (rest : List Token) :
    run? ⟨.complete sum, outer, none⟩ (.mark sign.char :: rest) =
      run? ⟨.signed sum sign, outer, none⟩ rest := by
  cases sign <;> rfl

/-- A number behind a sign is added with this sign. -/
theorem run?_number {sum : Int} {sign : Sign} {outer : List Partial} (n : Nat)
    (rest : List Token) :
    run? ⟨.signed sum sign, outer, none⟩ (.number n :: rest) =
      run? ⟨.complete (sum + sign.exact n), outer, none⟩ rest :=
  rfl

/-- A parenthesis begins a sum of its own. -/
theorem run?_opening {current : Partial} {outer : List Partial} (rest : List Token) :
    run? ⟨current, outer, none⟩ (.mark '(' :: rest) = run? ⟨.start, current :: outer, none⟩ rest :=
  rfl

/-- What stands in parentheses is one operand. -/
theorem run?_closing {sum : Int} {current : Partial} {outer : List Partial} (rest : List Token) :
    run? ⟨.complete sum, current :: outer, none⟩ (.mark ')' :: rest) =
      (current.add? sum).bind fun next => run? ⟨next, outer, none⟩ rest := by
  have closed : step? ⟨.complete sum, current :: outer, none⟩ (.mark ')') =
      add? ⟨current, outer, none⟩ sum :=
    rfl
  rw [run?_cons, closed, add?, Option.bind_map]
  rfl

example : read? "-[2, ~~7~~] + (3 - [])" = some 1 := by decide +kernel

end Reader

end Arithmetic

end DiceWords
