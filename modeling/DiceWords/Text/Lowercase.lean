import DiceWords.Text.Lowercase.Table

/-! # The full lowercase mapping

Every character has a lowercase text of its own, except capital sigma, whose form hangs on the
letters around it: at the end of a word it becomes `ς`, elsewhere `σ`. Capital I with a dot above
is the only character that becomes two. -/

namespace DiceWords.Text

/-- Whether a character is upper, lower or title case. -/
def isCased (c : Char) : Bool :=
  casedCodePoints.has c

/-- Whether a character is passed over in the search for a neighbouring letter. -/
def isCaseIgnorable (c : Char) : Bool :=
  caseIgnorableCodePoints.has c

/-- The lowercase text of a character on its own. -/
def lower (c : Char) : List Char :=
  if c.toNat < 0x80 then [c.toLower]
  else if c = 'İ' then ['i', '\u0307']
  else
    match caseRanges.find? fun range => range.maps c.toNat with
    | some range => [Char.ofNat (range.target + (c.toNat - range.first))]
    | none => [c]

/-- Whether the text goes on with a cased letter, ignorable characters passed over. -/
def startsCased (text : List Char) : Bool :=
  (text.dropWhile isCaseIgnorable).head?.any isCased

/-- The lowercase text, where `afterCased` says whether the text before ends with a cased letter,
ignorable characters passed over. -/
def lowercaseAfter (afterCased : Bool) : List Char → List Char
  | [] => []
  | c :: rest =>
    let mapped :=
      if c = 'Σ' then [if afterCased && !startsCased rest then 'ς' else 'σ'] else lower c
    mapped ++ lowercaseAfter (if isCaseIgnorable c then afterCased else isCased c) rest

/-- The lowercase form of a text. -/
def lowercase (text : List Char) : List Char :=
  lowercaseAfter false text

end DiceWords.Text
