import DiceWords.Limits

/-! # Why a dice expression is refused

A word that is no dice expression at all is not refused but ignored. An error says that a word
begins like dice and then breaks a rule: the rules on chains and repeats (`Malformed`), or those
on numbers (`Invalid`). Only a die letter that is unknown is not the writer's fault, since no such
letter makes a word begin like dice. -/

namespace DiceWords

/-- How a word breaks the rules on chains and repeats. -/
inductive Malformed where
  /-- A term with a repeat count stands beside something else. -/
  | repeatInChain
  /-- The chain goes on after the last term allowed. -/
  | tooManyTerms
  /-- A sign is not followed by dice. -/
  | missingDice
  /-- A reason in other words. -/
  | other (text : String)
deriving DecidableEq, Repr

/-- How a number breaks the rules. -/
inductive Invalid where
  /-- The digits stand for more than the field can hold. -/
  | outOfRange (digits : String)
  | noDice
  | tooManyDice
  | noRepeats
  | tooManyRepeats
  | keepsNone
  | keepsTooMany (count amount : Nat)
  /-- A reason in other words. -/
  | other (text : String)
deriving DecidableEq, Repr

/-- Why a dice expression is refused. -/
inductive Error where
  | malformed (input : String) (reason : Malformed)
  | invalid (why : Invalid)
  | unknownDie (text : String)
deriving DecidableEq, Repr

/-- The reason in words. -/
def Malformed.text : Malformed → String
  | repeatInChain => "a repeated roll can't be chained"
  | tooManyTerms => "too many chained terms"
  | missingDice => "expected dice after the sign"
  | other text => text

/-- The reason in words. -/
def Invalid.text : Invalid → String
  | outOfRange digits => "`" ++ digits ++ "` is out of range"
  | noDice => "can't roll zero dice"
  | tooManyDice => "exceeded max allowed amount of dice `" ++ toString maxAmount ++ "`"
  | noRepeats => "can't repeat zero times"
  | tooManyRepeats => "exceeded max allowed repetitions `" ++ toString maxRepeats ++ "`"
  | keepsNone => "can't keep zero dice"
  | keepsTooMany count amount =>
    "can't keep " ++ toString count ++ " out of " ++ toString amount ++ " dice"
  | other text => text

namespace Error

/-- The error in words. -/
def text : Error → String
  | malformed input reason => "malformed expression `" ++ input ++ "`: " ++ reason.text
  | invalid why => "invalid dice: " ++ why.text
  | unknownDie text => "unknown dice type `" ++ text ++ "`"

/-- Whether the one who wrote the word can mend it. -/
def isUserError : Error → Bool
  | malformed .. | invalid _ => true
  | unknownDie _ => false

end Error

end DiceWords
