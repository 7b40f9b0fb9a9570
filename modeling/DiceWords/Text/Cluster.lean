import DiceWords.Text.Cluster.Table

/-! # Grapheme clusters

What a reader takes for one character may be written with several: a letter with its accents, a
syllable of Hangul, a conjunct of consonants, a flag, a joined emoji. A text falls apart into such
clusters. Whether one ends at some place is decided by the characters on both sides of it and, for
flags, emoji and conjuncts, by those further back. -/

namespace DiceWords.Text

/-- How a character joins its neighbours. -/
inductive Joining where
  | carriageReturn
  | lineFeed
  /-- Any other character that stands alone. -/
  | control
  /-- A mark that extends the character before it. -/
  | mark
  /-- A mark that extends the character before it and takes up space. -/
  | spacing
  /-- A sign that links two consonants of a conjunct. -/
  | linker
  | joiner
  | nonJoiner
  /-- A sign that belongs to the character behind it. -/
  | prepended
  /-- One half of a flag. -/
  | regional
  | pictograph
  /-- A consonant that may be part of a conjunct. -/
  | consonant
  /-- A consonant at the beginning of a Hangul syllable. -/
  | initial
  /-- A vowel of a Hangul syllable; those of Kirat Rai join alike. -/
  | medial
  /-- A consonant at the end of a Hangul syllable. -/
  | final
  /-- A Hangul syllable without a consonant at its end. -/
  | openSyllable
  /-- A Hangul syllable with a consonant at its end. -/
  | closedSyllable
  | other
deriving DecidableEq, Repr

namespace Joining

/-- How a letter or a syllable of Hangul joins its neighbours. -/
def ofHangul? (n : Nat) : Option Joining :=
  if (0x1100 ≤ n && n ≤ 0x115F) || (0xA960 ≤ n && n ≤ 0xA97C) then some initial
  else if (0x1160 ≤ n && n ≤ 0x11A7) || (0xD7B0 ≤ n && n ≤ 0xD7C6) || n == 0x16D63 ||
      (0x16D67 ≤ n && n ≤ 0x16D6A) then some medial
  else if (0x11A8 ≤ n && n ≤ 0x11FF) || (0xD7CB ≤ n && n ≤ 0xD7FB) then some final
  else if 0xAC00 ≤ n && n ≤ 0xD7A3 then
    some (if (n - 0xAC00) % 28 = 0 then openSyllable else closedSyllable)
  else none

/-- How a character beyond ASCII joins its neighbours. -/
def ofWide (c : Char) : Joining :=
  if c = '\u200c' then nonJoiner
  else if c = '\u200d' then joiner
  else if controlCodePoints.has c then control
  else if linkerCodePoints.has c then linker
  else if markCodePoints.has c then mark
  else if spacingCodePoints.has c then spacing
  else if prependedCodePoints.has c then prepended
  else if 0x1F1E6 ≤ c.toNat && c.toNat ≤ 0x1F1FF then regional
  else if pictographCodePoints.has c then pictograph
  else if consonantCodePoints.has c then consonant
  else (ofHangul? c.toNat).getD other

/-- How a character joins its neighbours. -/
def ofChar (c : Char) : Joining :=
  if c = '\r' then carriageReturn
  else if c = '\n' then lineFeed
  else if c.toNat < 0x80 then if controlCodePoints.has c then control else other
  else ofWide c

/-- Whether a cluster ends on both sides of the character, a carriage return with its line feed
apart. -/
def isAlone : Joining → Bool
  | carriageReturn | lineFeed | control => true
  | _ => false

/-- Whether the character extends the one before it, without taking up space. -/
def isMark : Joining → Bool
  | mark | linker | nonJoiner => true
  | _ => false

/-- Whether the character goes on with the cluster before it, whatever that is. -/
def attaches (joining : Joining) : Bool :=
  joining.isMark || joining == joiner || joining == spacing

end Joining

/-! ## Clusters under way -/

/-- Whether an emoji at the end of a text can go on. -/
inductive EmojiEnd where
  /-- There is none. -/
  | absent
  /-- A pictograph, with marks or without. -/
  | complete
  /-- A pictograph with a joiner behind it. -/
  | joined
deriving DecidableEq, Repr

/-- Whether a conjunct at the end of a text can go on. -/
inductive ConjunctEnd where
  /-- There is none. -/
  | absent
  /-- A consonant that nothing links to the next one. -/
  | complete
  /-- A consonant with a linker behind it. -/
  | linked
deriving DecidableEq, Repr

/-- What the end of a text tells about where its last cluster ends. -/
structure ClusterEnd where
  last : Joining
  /-- Whether the text ends in half a flag. -/
  halfFlag : Bool := false
  emoji : EmojiEnd := .absent
  conjunct : ConjunctEnd := .absent
deriving DecidableEq, Repr

namespace ClusterEnd

/-- The end of the empty text, at which no cluster is under way. -/
def start : ClusterEnd where
  last := .control

/-- Whether a character goes on with the last cluster. -/
def takes (before : ClusterEnd) (next : Joining) : Bool :=
  if before.last.isAlone || next.isAlone then before.last == .carriageReturn && next == .lineFeed
  else if next.attaches || before.last == .prepended then true
  else
    match next with
    | .initial | .openSyllable | .closedSyllable => before.last == .initial
    | .medial => before.last == .initial || before.last == .medial || before.last == .openSyllable
    | .final =>
      before.last == .medial || before.last == .final || before.last == .openSyllable ||
        before.last == .closedSyllable
    | .regional => before.halfFlag
    | .pictograph => before.emoji == .joined
    | .consonant => before.conjunct == .linked
    | _ => false

/-- The end of an emoji after one more character. -/
def emojiAfter (before : EmojiEnd) (next : Joining) : EmojiEnd :=
  if next == .pictograph || (before == .complete && next.isMark) then .complete
  else if before == .complete && next == .joiner then .joined
  else .absent

/-- The end of a conjunct after one more character. -/
def conjunctAfter (before : ConjunctEnd) (next : Joining) : ConjunctEnd :=
  match next with
  | .consonant => .complete
  | .linker => if before == .absent then .absent else .linked
  | .mark | .joiner => before
  | _ => .absent

/-- The end of the text after one more character. -/
def push (before : ClusterEnd) (next : Joining) : ClusterEnd where
  last := next
  halfFlag := next == .regional && !before.halfFlag
  emoji := emojiAfter before.emoji next
  conjunct := conjunctAfter before.conjunct next

end ClusterEnd

/-- How a text goes on with the cluster before it, and the clusters behind that. -/
def clustersAfter (before : ClusterEnd) : List Char → List Char × List (List Char)
  | [] => ([], [])
  | c :: rest =>
    let next := Joining.ofChar c
    let (own, others) := clustersAfter (before.push next) rest
    if before.takes next then (c :: own, others) else ([], (c :: own) :: others)

/-- The grapheme clusters of a text, in order. -/
def clusters (text : List Char) : List (List Char) :=
  (clustersAfter .start text).2

end DiceWords.Text
