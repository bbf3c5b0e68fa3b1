import ShaderTools.Text.Numeral

/-!
Status lines. A line starts with an icon for its severity; on a terminal, icon and message are
each put into the colour of the severity and back into the default colour.
-/

namespace ShaderTools.Terminal

/-- A colour of the terminal's palette of 256. -/
inductive Color where
  | cyan
  | darkGrey
  | green
  | red
  deriving DecidableEq, Repr

/-- The place of a colour in the palette. -/
def Color.number : Color → Nat
  | cyan => 14
  | darkGrey => 8
  | green => 10
  | red => 9

/-- The weight of a message. -/
inductive Severity where
  | info
  | success
  | error
  deriving DecidableEq, Repr

def Severity.icon : Severity → Text
  | info => "ℹ".toList
  | success => "✓".toList
  | error => "✗".toList

def Severity.color : Severity → Color
  | info => .darkGrey
  | success => .green
  | error => .red

/-- The colour of values inside messages. -/
def highlightColor : Color := .cyan

/-- How messages are written: plainly, with sequences that set colours, or with sequences that
leave the colour out, as a user may ask who wants none. -/
inductive Styling where
  | plain
  | colored
  | colorless
  deriving DecidableEq, Repr

/-- A sequence that sets the rendition of what follows. -/
def rendition (parameters : Text) : Text := '\x1b' :: '[' :: (parameters ++ ['m'])

def paint (styling : Styling) (color : Color) (t : Text) : Text :=
  match styling with
  | .plain => t
  | .colored =>
    rendition ("38;5;".toList ++ Text.ofNat color.number) ++ t ++ rendition "39".toList
  | .colorless => rendition [] ++ t ++ rendition []

/-- A status line, without an end of line. -/
def statusLine (styling : Styling) (severity : Severity) (message : Text) : Text :=
  paint styling severity.color severity.icon ++ ' ' :: paint styling severity.color message

/-- A value inside a message. -/
def highlight (styling : Styling) (value : Text) : Text := paint styling highlightColor value

end ShaderTools.Terminal
