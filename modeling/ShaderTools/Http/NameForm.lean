import ShaderTools.Http.NameForm.Table
import ShaderTools.Text.Composed
import ShaderTools.Text.Hidden

/-!
The form of a name, in which two names are the same if they are the same but for case, the look of
their characters and the way their marks are written.
-/

namespace ShaderTools.Http

/-- The rows of the table of forms, as lists. -/
def formRows : List (Nat × List Text) :=
  formTable.map fun (first, row) => (first, Text.words (· = ' ') row.toList)

/-- The form of a character that has one in a row. -/
def listedForm? (c : Char) : Option Text :=
  formRows.findSome? fun (first, row) => if c.toNat < first then none else row[c.toNat - first]?

/-- The form of a character in a run. -/
def shiftedForm? (c : Char) : Option Char :=
  shiftTable.findSome? fun (first, count, step, form) =>
    let distance := c.toNat - first
    if first ≤ c.toNat ∧ distance % step = 0 ∧ distance / step < count then
      some (Char.ofNat (form + distance))
    else none

/-- What a character stands for in a name. -/
def characterForm (c : Char) : Text :=
  if c.toNat < 0x80 then [c.toLower]
  else if Text.inRanges ignoredRanges c then []
  else (listedForm? c).getD [(shiftedForm? c).getD c]

def nameForm (name : Text) : Text := Text.composed (name.flatMap characterForm)

/-- Whether a character shows nothing itself, but joins its neighbours or keeps them apart. -/
def isJoiner (c : Char) : Bool := c = '\u200c' || c = '\u200d'

/-- Whether a character outside ASCII may stand in the form of a name. -/
def isNameLetter (c : Char) : Bool :=
  isJoiner c || !(Text.isVoid c || Text.inRanges refusedRanges c)

end ShaderTools.Http
