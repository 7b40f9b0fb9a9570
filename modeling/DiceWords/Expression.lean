import DiceWords.Term

/-! # Dice expressions

A word is a dice expression when it is one repeated term, a batch, or terms joined by signs, a
chain. A word that does not begin with a term, or in which something other than a sign follows a
term, is no expression. One in which a sign is not followed by a term, or a repeated term does not
stand alone, is refused, and so is a chain of too many terms. -/

namespace DiceWords

/-- One term of a chain with the sign it is combined with. -/
structure Link where
  sign : Sign
  term : Term
deriving DecidableEq, Repr

/-- What a whole word asks for, before any die is thrown. -/
inductive Expression where
  /-- One term, thrown again and again and shown each time. -/
  | batch (times : Nat) (term : Term)
  /-- Terms combined into one total. -/
  | chain (links : List Link)
deriving DecidableEq, Repr

namespace Expression

/-- How many dice the expression throws, as far as a count can tell. -/
def faces : Expression → Nat
  | batch times term => saturateCount (times * term.spec.amount)
  | chain links => saturateCount ((links.map fun link => link.term.spec.amount).foldr (· + ·) 0)

/-- The links behind the first `read` terms of a word, up to its end. -/
def links? (options : Options) (word : String) (read : Nat) :
    List Char → Except Error (Option (List Link))
  | [] => .ok (some [])
  | c :: text =>
    match Sign.ofChar? c with
    | none => .ok none
    | some sign =>
      if options.maxTerms ≤ read then .error (.malformed word .tooManyTerms)
      else
        match taken : Term.take? options text with
        | .error e => .error e
        | .ok none => .error (.malformed word .missingDice)
        | .ok (some (term, rest)) =>
          have : rest.length < text.length := Term.length_rest_lt_of_take? taken
          if term.repeats.isSome then .error (.malformed word .repeatInChain)
          else
            match links? options word (read + 1) rest with
            | .error e => .error e
            | .ok none => .ok none
            | .ok (some links) => .ok (some ({ sign, term } :: links))
  termination_by text => text.length

/-- The expression that a whole word is, if it is one. Letters must be lowercase. -/
def parse (options : Options) (word : String) : Except Error (Option Expression) :=
  match Term.take? options word.toList with
  | .error e => .error e
  | .ok none => .ok none
  | .ok (some (term, rest)) =>
    match term.repeats with
    | some times =>
      if rest.isEmpty then .ok (some (.batch times term))
      else .error (.malformed word .repeatInChain)
    | none =>
      match links? options word 1 rest with
      | .error e => .error e
      | .ok none => .ok none
      | .ok (some links) => .ok (some (.chain ({ sign := .plus, term } :: links)))

end Expression

end DiceWords
