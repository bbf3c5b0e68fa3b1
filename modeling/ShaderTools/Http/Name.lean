import ShaderTools.Http.Direction
import ShaderTools.Http.Joining
import ShaderTools.Http.Punycode

/-!
The names of hosts in ASCII. A name is put into its form, and each label that is not in ASCII then
is written so behind a mark. A label that comes with the mark has to be what is written for some
label.
-/

namespace ShaderTools.Http

/-- What a label outside ASCII starts with where it is written in ASCII. -/
def asciiMark : Text := "xn--".toList

/-- How long a label outside ASCII may be. -/
def labelLimit : Nat := 1000

/-- How much may stand behind the mark of a label. -/
def encodedLimit : Nat := 2000

def isAscii (t : Text) : Bool := t.all (·.toNat < 0x80)

/-- Whether a text may be a label outside ASCII. -/
def isForeignLabel (label : Text) : Bool :=
  !isAscii label && label.length ≤ labelLimit && nameForm label = label
    && label.all (fun c => c.toNat < 0x80 || isNameLetter c)
    && label.head?.all (!Text.isMark ·) && joinersShow [] label
    && !asciiMark.isPrefixOf label

/-- The label that a text in the form of names stands for. -/
def label? (t : Text) : Option Text :=
  if asciiMark.isPrefixOf t then
    let encoded := t.drop asciiMark.length
    if isAscii t && encoded.length ≤ encodedLimit then
      (Punycode.decode? encoded).filter isForeignLabel
    else none
  else if isAscii t || isForeignLabel t then some t
  else none

def asciiLabel (label : Text) : Text :=
  if isAscii label then label else asciiMark ++ Punycode.encode label

/-- A name in ASCII and in lower case. Labels in ASCII all run from left to right. -/
def asciiName? (name : Text) : Option Text := do
  let labels ← (Text.split (· = '.') (nameForm name)).mapM label?
  if labels.all isAscii || Direction.areClear labels then
    return List.intercalate ['.'] (labels.map asciiLabel)
  else none

end ShaderTools.Http
