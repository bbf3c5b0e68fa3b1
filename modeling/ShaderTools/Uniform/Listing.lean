import ShaderTools.FileSystem.Operations
import ShaderTools.Text.Lines
import ShaderTools.Text.Quoted
import ShaderTools.Uniform.Basic

/-!
Listings of uniforms. A listing is read line by line: lines that declare no uniform are passed
over, of several declarations of a name the first one counts, and a declaration without a name
ends the reading. A listing gives its items one at a time; read to the end, it also tells of the
declarations that were skipped, among which are the same items.
-/

namespace ShaderTools

/-- Why a listing is not read to its end. -/
inductive Listing.Error where
  /-- The file cannot be read. -/
  | unreadable (path : Path) (failure : Failure)
  /-- The declaration on a line, counted from one, has fewer than three words. -/
  | malformed (line : Nat) (content : Text)
  deriving DecidableEq, Repr

def Listing.Error.message : Listing.Error → Text
  | unreadable path failure =>
    "Failed to read ".toList ++ path ++ ": ".toList ++ failure.message
  | malformed line content =>
    "Malformed uniform declaration on line ".toList ++ Text.ofNat line ++ ": ".toList
      ++ content.quote

/-- The wordings of the causes of a listing error. -/
def Listing.Error.causes : Listing.Error → List Text
  | unreadable _ failure => [failure.message]
  | malformed _ _ => []

/-- What one step of reading a listing gives. -/
abbrev Listing.Item := Except Listing.Error Uniform

/-- A listing that is being read: the lines to come, how many were passed, the names met so far,
and whether a malformed line was met. -/
structure Listing where
  lines : List Text
  passed : Nat
  seen : List Text
  failed : Bool

namespace Listing

/-- The file that is read unless another one is given. -/
def defaultPath : Path := "shaders.txt".toList

/-- A text as a listing, before its first line. -/
def ofText (t : Text) : Listing := ⟨t.lines, 0, [], false⟩

/-- Reads lines up to the next item. -/
def nextFrom (seen : List Text) (passed : Nat) : List Text → Option Item × Listing
  | [] => (none, ⟨[], passed, seen, false⟩)
  | line :: rest =>
    if Uniform.isDeclaredBy line then
      match Uniform.ofLine? line with
      | none => (some (.error (.malformed (passed + 1) line)), ⟨rest, passed + 1, seen, true⟩)
      | some uniform =>
        if uniform.label ∈ seen then nextFrom seen (passed + 1) rest
        else (some (.ok uniform), ⟨rest, passed + 1, uniform.label :: seen, false⟩)
    else nextFrom seen (passed + 1) rest

/-- The next item, if there is one, and the listing behind it. -/
def next (l : Listing) : Option Item × Listing :=
  if l.failed then (none, l) else nextFrom l.seen l.passed l.lines

/-- The results of asking a number of times for the next item. -/
def results : (calls : Nat) → Listing → List (Option Item)
  | 0, _ => []
  | calls + 1, l => l.next.1 :: results calls l.next.2

/-- All items: there are no more of them than lines. -/
def items (l : Listing) : List Item := (l.results l.lines.length).filterMap id

def itemsOfText (t : Text) : List Item := (ofText t).items

/-- What a declaration comes to when its line is read. -/
inductive Reading where
  /-- The declaration on a line, counted from one, is of a name that was met before. -/
  | skipped (line : Nat) (label : Text)
  | item (item : Item)

/-- What the declarations on lines come to, one after the other. -/
def readingsFrom (seen : List Text) (passed : Nat) : List Text → List Reading
  | [] => []
  | line :: rest =>
    if Uniform.isDeclaredBy line then
      match Uniform.ofLine? line with
      | none => [.item (.error (.malformed (passed + 1) line))]
      | some uniform =>
        if uniform.label ∈ seen then
          .skipped (passed + 1) uniform.label :: readingsFrom seen (passed + 1) rest
        else .item (.ok uniform) :: readingsFrom (uniform.label :: seen) (passed + 1) rest
    else readingsFrom seen (passed + 1) rest

def readingsOfText (t : Text) : List Reading := readingsFrom [] 0 t.lines

def itemsOf (readings : List Reading) : List Item :=
  readings.filterMap fun
    | .skipped _ _ => none
    | .item item => some item

/-- The text of what reading a file gave, if it is text. -/
def textOfRead (p : Path) (bytes : Except Failure Bytes) : Except Error Text :=
  (bytes.bind FileSystem.textOfBytes).mapError (.unreadable p)

/-- The items of a file, if it can be read as text. -/
def itemsOfFile (fs : FileSystem) (p : Path) : Except Error (List Item) :=
  (textOfRead p (fs.read p)).map itemsOfText

end Listing

end ShaderTools
