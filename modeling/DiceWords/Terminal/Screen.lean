import DiceWords.Terminal.Markdown

/-! # Screens

What a terminal is sent for a line of markdown or for a colored text is up to the screen. The
program only tells it which texts to render and which to paint in which style. -/

namespace DiceWords.Terminal

/-- How texts are prepared for a terminal. -/
structure Screen where
  /-- What is sent for a line of markdown. -/
  render : String → String
  /-- What is sent for a text in a style. -/
  paint : Style → String → String

namespace Screen

/-- **A screen that shows colors** sends the control sequence of the style first. A text without the
escape character then comes as it is, and the sequence that resets all styles ends it. -/
structure Colors (screen : Screen) : Prop where
  starts : ∀ (style : Style) (text : String),
    ∃ rest, (screen.paint style text).toList = style.start ++ rest
  whole : ∀ (style : Style) (text : String), '\x1b' ∉ text.toList →
    (screen.paint style text).toList = style.start ++ text.toList ++ control "0"

/-- The screen of a terminal with all its colors. -/
def ansi : Screen where
  render := Markdown.render
  paint := Style.paint

end Screen

end DiceWords.Terminal
