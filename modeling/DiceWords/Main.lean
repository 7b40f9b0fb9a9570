import DiceWords.Source.Feed
import DiceWords.Terminal.LineEditor
import DiceWords.Terminal.Session

/-! # The program on a terminal

Lines are read from standard input and answered one by one. The history is kept in a file in the
working directory. -/

namespace DiceWords.Program

open Terminal Session

/-- The file that keeps the history between sessions. -/
def historyFile : String :=
  "history"

/-- The bytes of the history's file, if it can be read. -/
def readHistory : IO (Option (List UInt8)) := do
  try
    return some (← IO.FS.readBinFile historyFile).data.toList
  catch _ =>
    return none

/-- A feed that begins at a number of the system's choice. -/
def freshFeed : IO Feed := do
  let bytes ← IO.getRandomBytes 8
  return .congruential (bytes.foldl (fun n byte => 256 * n + byte.toUInt64) 0)

/-- Print a text on its stream. -/
def put : Printed → IO Unit
  | .output text => IO.println text
  | .error text => IO.eprintln text

/-- The bytes of the next line with its end; none are left when the input is over. -/
partial def lineBytes (input : IO.FS.Stream) (bytes : Array UInt8) : IO (List UInt8) := do
  let next ← input.read 1
  if next.isEmpty then return bytes.toList
  let bytes := bytes ++ next.data
  if bytes.back? == some 10 then return bytes.toList
  lineBytes input bytes

/-- Show a prompt where someone can see it. -/
def showPrompt (input output : IO.FS.Stream) (prompt : Prompt) : IO Unit := do
  if ← input.isTty then
    output.putStr (prompt.shown true)
    output.flush

/-- Take lines from the input, from the one of a number on. -/
partial def serve (input output : IO.FS.Stream) (feed : Feed) (number : Nat) (archive : Archive) :
    IO (Except Failure Archive) := do
  let prompt := Prompt.ofNumber .ansi number
  showPrompt input output prompt
  match lineEditor.ask archive prompt (← lineBytes input #[]) with
  | .crashed => return .error .crash
  | .left leaving =>
    put (notice .ansi leaving)
    return .ok archive
  | .line text next _ =>
    let ((entered, printed), feed) := (enter .ansi lineEditor Feed.source next text).run feed
    printed.forM put
    match entered with
    | .error failure => return .error failure
    | .ok archive => serve input output feed (number + 1) archive

/-- The exit code of a program that fails, which tells why if it can. -/
def fail : Failure → IO UInt32
  | .error why => do
    IO.eprintln ("Error: " ++ why)
    return 1
  | .crash => return 101

/-- A whole session. The history's file is left alone when it stays as it was. -/
def run : IO UInt32 := do
  let file ← readHistory
  let (archive, loaded) := lineEditor.load file
  (greeting .ansi loaded).forM put
  match ← serve (← IO.getStdin) (← IO.getStdout) (← freshFeed) 1 archive with
  | .error failure => fail failure
  | .ok archive =>
    let (left, why) := lineEditor.save archive file
    if left != file then
      if let some bytes := left then IO.FS.writeBinFile historyFile ⟨bytes.toArray⟩
    match why with
    | none => return 0
    | some why => fail (.error why)

end DiceWords.Program

def main : IO UInt32 :=
  DiceWords.Program.run
