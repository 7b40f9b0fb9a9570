import DiceWords.Terminal.Screen
import DiceWords.Text.Blank
import Mathlib.Data.List.SplitBy

/-! # What a terminal shows

A terminal takes the control sequences out of a text and shows each other character in the style
that the last one of them has set. A text without the escape character is shown as it stands
(`displayFrom_append`), and on a screen with colors a painted text without it is shown in its style,
with nothing styled behind it (`Screen.Colors.displayFrom_paint`). -/

namespace DiceWords.Terminal

/-- A character on a terminal, with the parameters of its style if it has one. -/
structure Glyph where
  char : Char
  style : Option String
deriving DecidableEq, Repr

/-- The style that parameters set. -/
def styleOf (parameters : String) : Option String :=
  if parameters = "0" then none else some parameters

/-- Where a terminal is in a text: at its characters, or in a control sequence, the parameters that
it has read there the newest first. -/
inductive Reading where
  | characters
  | parameters (read : List Char)
deriving DecidableEq, Repr

/-- What is shown for a text, from some point of it and with some style in force. -/
def displayFrom : Option String → Reading → List Char → List Glyph
  | style, .characters, '\x1b' :: '[' :: rest => displayFrom style (.parameters []) rest
  | style, .characters, c :: rest => ⟨c, style⟩ :: displayFrom style .characters rest
  | _, .parameters read, 'm' :: rest =>
    displayFrom (styleOf (String.ofList read.reverse)) .characters rest
  | style, .parameters read, c :: rest => displayFrom style (.parameters (c :: read)) rest
  | _, _, [] => []

/-- What is shown for a whole text. -/
def display (text : String) : List Glyph :=
  displayFrom none .characters text.toList

/-- Characters in one style. -/
def shade (style : Option String) (text : List Char) : List Glyph :=
  text.map (⟨·, style⟩)

/-- A style changes no character. -/
theorem map_char_shade (style : Option String) (text : List Char) :
    (shade style text).map Glyph.char = text := by
  rw [shade, List.map_map]
  exact List.map_id text

theorem mem_shade_cons (style : Option String) (c : Char) (text : List Char) :
    ⟨c, style⟩ ∈ shade style (c :: text) :=
  List.mem_cons_self

/-- All characters are in the one style. -/
theorem forall_mem_shade (style : Option String) (text : List Char) :
    ∀ glyph ∈ shade style text, glyph.style = style := by
  intro glyph member
  obtain ⟨c, -, rfl⟩ := List.mem_map.mp member
  rfl

/-! ## Texts with and without control sequences -/

/-- A character other than the escape is shown in the style in force. -/
theorem displayFrom_cons {c : Char} (visible : c ≠ '\x1b') (style : Option String)
    (rest : List Char) :
    displayFrom style .characters (c :: rest) = ⟨c, style⟩ :: displayFrom style .characters rest :=
  displayFrom.eq_2 style c rest fun _ escape => absurd escape visible

/-- **A text without the escape character is shown as it stands**, in the style in force. -/
theorem displayFrom_append {text : List Char} (visible : '\x1b' ∉ text) (style : Option String)
    (rest : List Char) :
    displayFrom style .characters (text ++ rest) =
      shade style text ++ displayFrom style .characters rest := by
  induction text with
  | nil => rfl
  | cons c text ih =>
      obtain ⟨first, others⟩ := List.ne_and_not_mem_of_not_mem_cons visible
      rw [List.cons_append, displayFrom_cons first.symm, ih others]
      rfl

/-- What stands in a control sequence up to its end sets the style. -/
theorem displayFrom_parameters {parameters : List Char} (unended : 'm' ∉ parameters)
    (style : Option String) (read rest : List Char) :
    displayFrom style (.parameters read) (parameters ++ 'm' :: rest) =
      displayFrom (styleOf (String.ofList (read.reverse ++ parameters))) .characters rest := by
  induction parameters generalizing read with
  | nil =>
      rw [List.append_nil]
      rfl
  | cons c parameters ih =>
      obtain ⟨first, others⟩ := List.ne_and_not_mem_of_not_mem_cons unended
      have step := displayFrom.eq_4 style read c (parameters ++ 'm' :: rest) first.symm
      rw [List.cons_append, step, ih others]
      simp

/-- **A control sequence sets the style** and shows nothing. -/
theorem displayFrom_control {parameters : String} (unended : 'm' ∉ parameters.toList)
    (style : Option String) (rest : List Char) :
    displayFrom style .characters (control parameters ++ rest) =
      displayFrom (styleOf parameters) .characters rest := by
  have inside := displayFrom_parameters unended style [] rest
  rw [List.reverse_nil, List.nil_append, String.ofList_toList] at inside
  rw [control, List.append_assoc]
  exact inside

/-- A text without the escape character holds no reset, so no style is set again. -/
theorem Style.resume_eq_self (style : Style) {text : List Char} (visible : '\x1b' ∉ text) :
    style.resume text = text := by
  induction text with
  | nil => rfl
  | cons c text ih =>
      obtain ⟨first, others⟩ := List.ne_and_not_mem_of_not_mem_cons visible
      rw [Style.resume.eq_2 style c text fun _ escape => absurd escape first.symm, ih others]

/-- The parameters of a style do not end its control sequence. -/
theorem Style.not_mem_parameters (style : Style) : 'm' ∉ style.parameters.toList := by
  cases style <;> decide

/-- The parameters of a style set it and do not reset it. -/
theorem Style.styleOf_parameters (style : Style) :
    styleOf style.parameters = some style.parameters := by
  cases style <;> rfl

/-- A painted text is shown in its style. -/
theorem Screen.Colors.displayFrom_paint {screen : Screen} (colors : screen.Colors) (style : Style)
    {text : List Char} (visible : '\x1b' ∉ text) (rest : List Char) :
    displayFrom none .characters ((screen.paint style (String.ofList text)).toList ++ rest) =
      shade (some style.parameters) text ++ displayFrom none .characters rest := by
  have reset : 'm' ∉ "0".toList := by decide
  have painted : (screen.paint style (String.ofList text)).toList =
      style.start ++ text ++ control "0" := by
    rw [colors.whole style _ (by rwa [String.toList_ofList]), String.toList_ofList]
  rw [painted, List.append_assoc, List.append_assoc, Style.start,
    displayFrom_control style.not_mem_parameters, style.styleOf_parameters,
    displayFrom_append visible, displayFrom_control reset]
  rfl

/-- A painted text between the control sequences around it. -/
theorem Style.toList_paint (style : Style) (text : String) :
    (style.paint text).toList = style.start ++ style.resume text.toList ++ control "0" :=
  String.toList_ofList

/-- A terminal with all its colors is a screen that shows colors. -/
theorem Screen.colors_ansi : ansi.Colors where
  starts := by
    intro style text
    exact ⟨style.resume text.toList ++ control "0",
      (style.toList_paint text).trans (List.append_assoc ..)⟩
  whole := by
    intro style text visible
    refine (style.toList_paint text).trans ?_
    rw [style.resume_eq_self visible]

/-! ## Words on a terminal -/

/-- The words that stand on a terminal, with their styles: the runs of characters that are not
blank. -/
def shownWords (glyphs : List Glyph) : List (List Glyph) :=
  (glyphs.splitBy fun left right => Text.isBlank left.char == Text.isBlank right.char).filter
    fun run => run.head?.any fun glyph => !Text.isBlank glyph.char

/-- If each run of a text is shown in one style, the words are shown in the styles of their runs. -/
theorem shownWords_flatMap_shade (style : List Char → Option String) (text : List Char) :
    shownWords ((Text.runs text).flatMap fun run => shade (style run) run) =
      ((Text.runs text).filter Text.isWord).map fun run => shade (style run) run := by
  have runs : ((Text.runs text).map fun run => shade (style run) run).flatten.splitBy
      (fun left right => Text.isBlank left.char == Text.isBlank right.char) =
        (Text.runs text).map fun run => shade (style run) run := by
    apply List.splitBy_flatten
    · intro empty
      obtain ⟨run, member, blank⟩ := List.mem_map.mp empty
      exact List.ne_nil_of_mem_splitBy member (List.map_eq_nil_iff.mp blank)
    · intro shaded member
      obtain ⟨run, listed, rfl⟩ := List.mem_map.mp member
      exact (List.isChain_map _).mpr (List.isChain_of_mem_splitBy listed)
    · rw [List.isChain_map]
      apply (List.isChain_getLast_head_splitBy _ text).imp
      rintro run next ⟨nonempty, nonempty', apart⟩
      refine ⟨by simpa [shade] using nonempty, by simpa [shade] using nonempty', ?_⟩
      simpa [shade] using apart
  rw [shownWords, List.flatMap_def, runs, List.filter_map]
  congr 1
  apply List.filter_congr
  intro run _
  cases run <;> rfl

end DiceWords.Terminal
