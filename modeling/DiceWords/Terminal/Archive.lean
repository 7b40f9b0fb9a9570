import DiceWords.Terminal.History
import DiceWords.Text.Lines

/-! # The file of a history

In a file, line ends and backslashes within an entry are escaped, and a first line tells that they
are; a file without that line holds entries as they are. An archive is a history that knows which of
its entries its file does not have yet. They are written behind those of the file when the file
holds nothing else and there is room; otherwise the file is written anew. -/

namespace DiceWords.Terminal

namespace History

/-- The first line of a file whose entries are escaped. -/
def header : String :=
  "#V2"

/-- An entry as it is written. -/
def escape (entry : List Char) : List Char :=
  entry.flatMap fun c =>
    if c = '\\' then ['\\', '\\'] else if c = '\n' then ['\\', 'n'] else [c]

/-- An entry as it was before it was escaped. -/
def unescape? : List Char → Option (List Char)
  | [] => some []
  | '\\' :: '\\' :: rest => (unescape? rest).map ('\\' :: ·)
  | '\\' :: 'n' :: rest => (unescape? rest).map ('\n' :: ·)
  | '\\' :: _ => none
  | c :: rest => (unescape? rest).map (c :: ·)

/-- Entries as they are written, each with its line end. -/
def written (entries : List String) : List UInt8 :=
  (String.ofList (entries.flatMap fun entry => escape entry.toList ++ ['\n'])).toUTF8.data.toList

/-- The file of a whole history. -/
def file (history : History) : List UInt8 :=
  (header ++ "\n").toUTF8.data.toList ++ written history.entries

/-- What the lines of a file yield. -/
structure Loaded where
  history : History := {}
  /-- Whether the lines are just these entries, so that others can be written behind them. -/
  extensible : Bool := true
deriving DecidableEq, Repr

/-- Take one entry from a file. -/
def Loaded.add (loaded : Loaded) (line : String) : Loaded :=
  if line.isEmpty then loaded
  else if isPrivate line || loaded.history.skips line then { loaded with extensible := false }
  else { loaded with history := loaded.history.push line }

/-- An escaped line of a file; one that is escaped in another way is taken as it is. -/
def entryOf (line : String) : String :=
  ((unescape? line.toList).map String.ofList).getD line

/-- Take all lines of a file. -/
def load : List String → Loaded
  | [] => { extensible := false }
  | first :: rest =>
    if first = header then (rest.map entryOf).foldl Loaded.add {}
    else { (first :: rest).foldl Loaded.add {} with extensible := false }

end History

/-- A history and what its file lacks. -/
structure Archive where
  history : History := {}
  /-- How many of the newest entries the file does not have. -/
  fresh : Nat := 0
  /-- How many entries the file has, if it holds nothing else. -/
  stored : Option Nat := none
deriving DecidableEq, Repr

namespace Archive

/-- The lines of a file, up to the first one that is no text. -/
def fileLines (file : List UInt8) : List String :=
  ((Text.byteLines file).map Text.lineText?).takeWhile Option.isSome |>.filterMap id

/-- Whether all lines of a file are texts. -/
def isText (file : List UInt8) : Bool :=
  (Text.byteLines file).all fun line => (Text.lineText? line).isSome

/-- The archive of a file, and whether the file is there and could be read to its end. The entries
in front of a line that cannot be read stay in the history as entries that the file lacks. -/
def load : Option (List UInt8) → Archive × Bool
  | none => ({}, false)
  | some file =>
    let loaded := History.load (fileLines file)
    let entries := loaded.history.entries.length
    if isText file then
      ({ history := loaded.history, stored := if loaded.extensible then some entries else none },
        true)
    else ({ history := loaded.history, fresh := entries }, false)

/-- The archive after a line has been entered. -/
def add (archive : Archive) (line : String) : Archive :=
  if History.isPrivate line || archive.history.skips line then archive
  else
    let history := archive.history.push line
    { archive with history, fresh := min (archive.fresh + 1) history.entries.length }

/-- The entries that the file does not have. -/
def freshEntries (archive : Archive) : List String :=
  archive.history.entries.drop (archive.history.entries.length - archive.fresh)

/-- Why bytes that are not UTF-8 cannot be read. -/
def notText : String :=
  "Io(Error \x7b kind: InvalidData, message: \"stream did not contain valid UTF-8\" \x7d)"

/-- The file after the fresh entries have been saved, and why they have not been, if so. -/
def save (archive : Archive) (file : Option (List UInt8)) : Option (List UInt8) × Option String :=
  if archive.fresh = 0 then (file, none)
  else
    match file with
    | none => (some archive.history.file, none)
    | some bytes =>
      if archive.fresh = History.capacity then (some archive.history.file, none)
      else if archive.stored.any (· + archive.fresh ≤ History.capacity) then
        (some (bytes ++ History.written archive.freshEntries), none)
      else if isText bytes then
        let known := (History.load (fileLines bytes)).history
        (some (archive.freshEntries.foldl History.push known).file, none)
      else (file, some notText)

end Archive

end DiceWords.Terminal
