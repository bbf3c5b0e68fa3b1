import ShaderTools.Text.Basic

/-!
The lines of a text. A line ends at a line feed, and one carriage return just before that line
feed belongs to the ending; what follows the last line feed is a line of its own unless it is
empty, and keeps a carriage return at its end.
-/

namespace ShaderTools.Text

/-- The lines of a text, without their endings. -/
def lines : Text → List Text
  | [] => []
  | '\n' :: rest => [] :: lines rest
  | '\r' :: '\n' :: rest => [] :: lines rest
  | c :: rest => growFirst c (lines rest)

@[simp] theorem lines_nil : lines [] = [] := rfl

@[simp] theorem lines_lineFeed (rest : Text) : lines ('\n' :: rest) = [] :: lines rest := by
  simp [lines]

@[simp] theorem lines_carriageReturn_lineFeed (rest : Text) :
    lines ('\r' :: '\n' :: rest) = [] :: lines rest := by
  simp [lines]

end ShaderTools.Text
