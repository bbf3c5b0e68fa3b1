import ShaderTools.Text.Basic

/-!
Texts of which some parts stand out on a terminal: headings are bold and underlined, and what is
typed as it stands is bold.
-/

namespace ShaderTools.Terminal

/-- How a part of a text stands out. -/
inductive Emphasis where
  | plain
  | typed
  | heading
  deriving DecidableEq, Repr

abbrev Markup := List (Emphasis × Text)

namespace Markup

/-- A part that does not stand out. -/
def plain (t : Text) : Markup := [(.plain, t)]

/-- A part that is typed as it stands. -/
def typed (t : Text) : Markup := [(.typed, t)]

def heading (t : Text) : Markup := [(.heading, t)]

/-- The text without any emphasis. -/
def text (m : Markup) : Text := m.flatMap Prod.snd

/-- The sequence that starts an emphasis. -/
def opening : Emphasis → Text
  | .plain => []
  | .typed => "\x1b[1m".toList
  | .heading => "\x1b[1m\x1b[4m".toList

/-- A part between the sequences of its emphasis. -/
def emphasize (part : Emphasis × Text) : Text :=
  match part with
  | (.plain, t) => t
  | (emphasis, t) => opening emphasis ++ t ++ "\x1b[0m".toList

/-- The text for a terminal, or for anything else. -/
def render (isStyled : Bool) (m : Markup) : Text :=
  if isStyled then m.flatMap emphasize else m.text

end Markup

end ShaderTools.Terminal
