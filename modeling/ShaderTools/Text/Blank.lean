import ShaderTools.Text.Basic

/-!
White space and the words between it. A character is blank when it has the Unicode property
`White_Space`; `trim` cuts blanks off both ends of a text, and `fields` gives its maximal runs of
characters that are not blank.
-/

namespace ShaderTools.Text

/-- Whether a character's code lies in one of the closed ranges of a table. -/
def inRanges (table : List (Nat × Nat)) (c : Char) : Bool :=
  table.any fun range => range.1 ≤ c.toNat && c.toNat ≤ range.2

/-- The code points with the property `White_Space`, as closed ranges. -/
def blankRanges : List (Nat × Nat) :=
  [(0x09, 0x0d), (0x20, 0x20), (0x85, 0x85), (0xa0, 0xa0), (0x1680, 0x1680), (0x2000, 0x200a),
    (0x2028, 0x2029), (0x202f, 0x202f), (0x205f, 0x205f), (0x3000, 0x3000)]

/-- Whether a character is white space. -/
def isBlank (c : Char) : Bool := inRanges blankRanges c

/-- The text without the blanks at its start and at its end. -/
def trim (t : Text) : Text := dropEndWhile isBlank (t.dropWhile isBlank)

/-- The words of a text: its maximal runs of characters that are not blank, in order. -/
def fields (t : Text) : List Text := words isBlank t

end ShaderTools.Text
