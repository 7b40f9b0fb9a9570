import DiceWords.Proofs.Terminal.Display
import DiceWords.Proofs.Terminal.Line
import DiceWords.Proofs.Text.Words
import Mathlib.Data.List.ReduceOption

/-! # Highlighted lines

Highlighting looks at the same words as rolling and reads them in the same way, so what a word will
print can be told from its color before anything is thrown. It adds nothing to the line but control
sequences: what a terminal shows for it is the line (`highlight_foretells_rollLine`). -/

namespace DiceWords.Terminal

/-! ## What is shown -/

/-- The style in which a word is highlighted. -/
def wordStyle (word : String) : Option String :=
  match (Query.ofWord word).parse {} with
  | .ok (some _) => some Style.boldGreen.parameters
  | .ok none => none
  | .error _ => some Style.red.parameters

/-- The style in which a run of characters is highlighted: blanks have none. -/
def runStyle (run : List Char) : Option String :=
  if Text.isWord run then wordStyle (String.ofList run) else none

section

variable {word : String}

/-- Dice are green. -/
theorem wordStyle_of_expression {expression : Expression}
    (parsed : (Query.ofWord word).parse {} = .ok (some expression)) :
    wordStyle word = some Style.boldGreen.parameters := by
  unfold wordStyle
  rw [parsed]

/-- A plain word has no color. -/
theorem wordStyle_of_plain (parsed : (Query.ofWord word).parse {} = .ok none) :
    wordStyle word = none := by
  unfold wordStyle
  rw [parsed]

/-- A word that is refused is red. -/
theorem wordStyle_of_error {error : Error}
    (parsed : (Query.ofWord word).parse {} = .error error) :
    wordStyle word = some Style.red.parameters := by
  unfold wordStyle
  rw [parsed]

end

/-- A run that is a word has the color of the word. -/
theorem runStyle_of_isWord {run : List Char} (word : Text.isWord run) :
    runStyle run = wordStyle (String.ofList run) :=
  if_pos word

/-- Blanks have no color. -/
theorem runStyle_of_not_isWord {run : List Char} (blank : ¬ Text.isWord run) :
    runStyle run = none :=
  if_neg blank

/-- A run as it is highlighted. -/
def highlightRun (screen : Screen) (run : List Char) : String :=
  if Text.isWord run then highlightWord screen (String.ofList run) else String.ofList run

/-- A line is highlighted run by run. -/
theorem toList_highlight (screen : Screen) (line : String) :
    (highlight screen line).toList =
      (Text.runs line.toList).flatMap fun run => (highlightRun screen run).toList := by
  have onwards (runs : List (List Char)) (start : String) :
      (runs.foldl (fun text run => text ++ highlightRun screen run) start).toList =
        start.toList ++ runs.flatMap fun run => (highlightRun screen run).toList := by
    induction runs generalizing start with
    | nil => exact (List.append_nil _).symm
    | cons run runs ih =>
        rw [List.foldl_cons, ih, String.toList_append, List.flatMap_cons, List.append_assoc]
  exact onwards _ ""

section

variable {screen : Screen} (colors : screen.Colors)

include colors

/-- A highlighted word is shown in its style. -/
theorem displayFrom_highlightWord {run : List Char} (visible : '\x1b' ∉ run) (rest : List Char) :
    displayFrom none .characters ((highlightWord screen (String.ofList run)).toList ++ rest) =
      shade (wordStyle (String.ofList run)) run ++ displayFrom none .characters rest := by
  unfold highlightWord
  rcases parsed : (Query.ofWord (String.ofList run)).parse {} with error | _ | expression
  · rw [wordStyle_of_error parsed]
    exact colors.displayFrom_paint .red visible rest
  · rw [wordStyle_of_plain parsed, String.toList_ofList]
    exact displayFrom_append visible none rest
  · rw [wordStyle_of_expression parsed]
    exact colors.displayFrom_paint .boldGreen visible rest

/-- A highlighted run is shown in its style. -/
theorem displayFrom_highlightRun {run : List Char} (visible : '\x1b' ∉ run) (rest : List Char) :
    displayFrom none .characters ((highlightRun screen run).toList ++ rest) =
      shade (runStyle run) run ++ displayFrom none .characters rest := by
  unfold highlightRun
  by_cases word : Text.isWord run
  · rw [if_pos word, runStyle_of_isWord word]
    exact displayFrom_highlightWord colors visible rest
  · rw [if_neg word, runStyle_of_not_isWord word, String.toList_ofList]
    exact displayFrom_append visible none rest

/-- **A highlighted line is shown as the line, each run in its style.** -/
theorem display_highlight {line : String} (visible : '\x1b' ∉ line.toList) :
    display (highlight screen line) =
      (Text.runs line.toList).flatMap fun run => shade (runStyle run) run := by
  have onwards (runs : List (List Char)) (visible : ∀ run ∈ runs, '\x1b' ∉ run) :
      displayFrom none .characters (runs.flatMap fun run => (highlightRun screen run).toList) =
        runs.flatMap fun run => shade (runStyle run) run := by
    induction runs with
    | nil => rfl
    | cons run runs ih =>
        obtain ⟨first, others⟩ := List.forall_mem_cons.mp visible
        rw [List.flatMap_cons, displayFrom_highlightRun colors first, ih others, List.flatMap_cons]
  rw [display, toList_highlight]
  apply onwards
  intro run listed escape
  apply visible
  rw [← Text.flatten_runs line.toList]
  exact List.mem_flatten.mpr ⟨run, listed, escape⟩

/-- The words that are shown are those of the line. -/
theorem shownWords_highlight {line : String} (visible : '\x1b' ∉ line.toList) :
    shownWords (display (highlight screen line)) =
      (Text.words line).map fun word => shade (wordStyle word) word.toList := by
  rw [display_highlight colors visible, shownWords_flatMap_shade, Text.words, List.map_map]
  apply List.map_congr_left
  intro run listed
  have word : Text.isWord run := (List.mem_filter.mp listed).2
  rw [runStyle_of_isWord word, Function.comp_apply, String.toList_ofList]

/-- A highlighted line has no color exactly when none of its words has one. -/
theorem forall_mem_display_iff {line : String} (visible : '\x1b' ∉ line.toList) :
    (∀ glyph ∈ display (highlight screen line), glyph.style = none) ↔
      ∀ word ∈ Text.words line, wordStyle word = none := by
  rw [display_highlight colors visible]
  constructor
  · intro unstyled word listed
    obtain ⟨run, found, rfl⟩ := List.mem_map.mp listed
    obtain ⟨inLine, isWord⟩ := List.mem_filter.mp found
    cases run with
    | nil => exact absurd isWord Bool.false_ne_true
    | cons c run =>
        have first : runStyle (c :: run) = none :=
          unstyled _ (List.mem_flatMap.mpr ⟨c :: run, inLine, mem_shade_cons _ c run⟩)
        exact (runStyle_of_isWord isWord).symm.trans first
  · intro plain glyph member
    obtain ⟨run, inLine, shaded⟩ := List.mem_flatMap.mp member
    rw [forall_mem_shade _ _ glyph shaded]
    by_cases isWord : Text.isWord run
    · rw [runStyle_of_isWord isWord]
      exact plain _ (List.mem_map.mpr ⟨run, List.mem_filter.mpr ⟨inLine, isWord⟩, rfl⟩)
    · exact runStyle_of_not_isWord isWord

end

/-- Styles change no character. -/
theorem map_char_flatMap_shade (style : List Char → Option String) (text : List Char) :
    ((Text.runs text).flatMap fun run => shade (style run) run).map Glyph.char = text := by
  rw [List.map_flatMap]
  simp only [map_char_shade]
  rw [List.flatMap_id', Text.flatten_runs]

/-! ## What is foretold -/

/-- What a highlighted word foretells: green a result, red an error, and no style nothing. -/
inductive Foretells (word : List Glyph) : Option Printed → Prop
  | green {text : String}
      (styled : ∀ glyph ∈ word, glyph.style = some Style.boldGreen.parameters) :
      Foretells word (some (.output text))
  | red {text : String} (styled : ∀ glyph ∈ word, glyph.style = some Style.red.parameters) :
      Foretells word (some (.error text))
  | plain (unstyled : ∀ glyph ∈ word, glyph.style = none) : Foretells word none

/-- **A word prints what its color foretells.** -/
theorem Prints.foretells {screen : Screen} {word : String} {entry : Option Printed}
    (prints : Prints screen word entry) :
    Foretells (shade (wordStyle word) word.toList) entry := by
  cases prints with
  | result draws parsed =>
      rw [wordStyle_of_expression parsed]
      exact .green (forall_mem_shade _ _)
  | plain parsed =>
      rw [wordStyle_of_plain parsed]
      exact .plain (forall_mem_shade _ _)
  | error parsed =>
      rw [wordStyle_of_error parsed]
      exact .red (forall_mem_shade _ _)

/-- A word prints nothing exactly when it has no color. -/
theorem Prints.eq_none_iff {screen : Screen} {word : String} {entry : Option Printed}
    (prints : Prints screen word entry) : entry = none ↔ wordStyle word = none := by
  cases prints with
  | result draws parsed =>
      rw [wordStyle_of_expression parsed]
      exact iff_of_false nofun nofun
  | plain parsed =>
      rw [wordStyle_of_plain parsed]
      exact iff_of_true rfl rfl
  | error parsed =>
      rw [wordStyle_of_error parsed]
      exact iff_of_false nofun nofun

/-- Nothing is printed exactly when no word has a style. -/
theorem reduceOption_eq_nil_iff {screen : Screen} {words : List String}
    {entries : List (Option Printed)} (prints : List.Forall₂ (Prints screen) words entries) :
    entries.reduceOption = [] ↔ ∀ word ∈ words, wordStyle word = none := by
  induction prints with
  | nil => exact iff_of_true rfl nofun
  | @cons word entry words entries first others ih =>
      rw [List.forall_mem_cons, ← ih, ← first.eq_none_iff]
      cases entry with
      | none => exact (and_iff_right rfl).symm
      | some text => exact iff_of_false nofun fun both => nomatch both.1

/-- **Highlighting tells the truth and changes no text.** A terminal shows a highlighted line as the
line itself, in colors. The words in it foretell from the left what rolling the line prints,
whatever is drawn: a green one a result, a red one an error, one without a color nothing; and the
notice that there are no dice is printed exactly when nothing is colored. -/
theorem highlight_foretells_rollLine {screen : Screen} (colors : screen.Colors) {line : String}
    (visible : '\x1b' ∉ line.toList) :
    (display (highlight screen line)).map Glyph.char = line.toList ∧
    (shownWords (display (highlight screen line))).map
      (fun word => String.ofList (word.map Glyph.char)) = Text.words line ∧
    ∀ {σ : Type} (source : Source σ) (state : σ),
      ∃ entries : List (Option Printed),
        List.Forall₂ Foretells (shownWords (display (highlight screen line))) entries ∧
        ((rollLine screen source line).run state).1 =
          (if entries.reduceOption = [] then [noDice screen] else entries.reduceOption) ∧
        (((rollLine screen source line).run state).1 = [noDice screen] ↔
          ∀ glyph ∈ display (highlight screen line), glyph.style = none) := by
  refine ⟨?_, ?_, fun source state => ?_⟩
  · rw [display_highlight colors visible, map_char_flatMap_shade]
  · rw [shownWords_highlight colors visible, List.map_map]
    apply List.map_id''
    intro word
    rw [Function.comp_apply, map_char_shade, String.ofList_toList]
  · rcases ran : (rollWords source (Text.words line)).run state with ⟨answers, final⟩
    have prints := forall₂_prints_of_run_rollWords screen ran
    have printing : ((rollLine screen source line).run state).1 = printed screen answers := by
      rw [run_rollLine, ran]
    have entries : (answers.map (answer screen)).reduceOption =
        answers.filterMap (answer screen) := by
      rw [List.reduceOption, List.filterMap_map]
      rfl
    refine ⟨answers.map (answer screen), ?_, ?_, ?_⟩
    · rw [shownWords_highlight colors visible, List.forall₂_map_left_iff]
      exact prints.imp fun _ _ printing => printing.foretells
    · rw [printing, printed, entries]
      simp only [List.isEmpty_iff]
    · rw [printing, printed_eq_noDice_iff colors, ← entries, reduceOption_eq_nil_iff prints,
        forall_mem_display_iff colors visible]

/-- A plain word, dice and a malformed word, with every draw an `8`. -/
theorem highlight_foretells_rollLine_three_words :
    let eights : Source Unit := { draw := fun _ => pure 8 }
    let glyphs := display (highlight .ansi "roll  2f 1r+")
    Screen.ansi.Colors ∧ '\x1b' ∉ "roll  2f 1r+".toList ∧
      glyphs.map Glyph.char = "roll  2f 1r+".toList ∧
      ∃ entries, List.Forall₂ Foretells (shownWords glyphs) entries ∧ entries.length = 3 ∧
        ((rollLine .ansi eights "roll  2f 1r+").run ()).1 = entries.reduceOption := by
  intro eights glyphs
  have visible : '\x1b' ∉ "roll  2f 1r+".toList := by decide
  obtain ⟨shown, -, foretold⟩ :=
    highlight_foretells_rollLine Screen.colors_ansi visible
  obtain ⟨entries, foretells, printed, noticed⟩ := foretold eights ()
  have three : (shownWords glyphs).length = 3 := by decide +kernel
  have answered : ((rollLine .ansi eights "roll  2f 1r+").run ()).1 ≠ [noDice .ansi] := by
    decide +kernel
  refine ⟨Screen.colors_ansi, visible, shown, entries, foretells,
    foretells.length_eq.symm.trans three, ?_⟩
  by_cases nothing : entries.reduceOption = []
  · rw [if_pos nothing] at printed
    exact absurd printed answered
  · rw [if_neg nothing] at printed
    exact printed

end DiceWords.Terminal
