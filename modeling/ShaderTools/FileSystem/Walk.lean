import ShaderTools.FileSystem.Failure
import ShaderTools.FileSystem.Path
import ShaderTools.FileSystem.Tree
import ShaderTools.Text.Utf8

/-!
Following a path through a file tree, name by name. Every name but the last must lead to a
directory, and a symbolic link on the way is followed, up to forty of them. What becomes of a link
at the end, and of a slash behind the last name, depends on the operation that asks.
-/

namespace ShaderTools

/-- A file tree whose root is a directory, with the directory that relative paths start from. That
one may have been removed: then nothing is at its location, which has an empty name in it if
something else has come to lie there since. -/
structure FileSystem where
  entries : List (Text × Tree)
  workingDirectory : Location

inductive PathStep where
  | here
  | up
  | name (text : Text)
  deriving DecidableEq, Repr

/-- A path as it is followed: where it starts, its steps, and whether a slash ends it. -/
structure Route where
  isAbsolute : Bool
  steps : List PathStep
  endsInSlash : Bool

namespace Route

def stepOfPiece (piece : Text) : PathStep :=
  if piece = ['.'] then .here else if piece = ['.', '.'] then .up else .name piece

def ofPath (p : Path) : Route :=
  { isAbsolute := p.isAbsolute
    steps := p.pieces.map stepOfPiece
    endsInSlash := p.getLast? = some '/' }

end Route

/-- What an operation makes of the last name of a path. -/
inductive LastName where
  /-- A link stands for itself. -/
  | kept
  /-- A link is followed, and a slash asks for a directory. -/
  | followed
  /-- A link is followed to where a file is to be made, unless a slash stands behind the name. -/
  | made
  deriving DecidableEq, Repr

/-- Where a path leads. -/
inductive Place where
  /-- To a directory, by its last step or because it has no step. -/
  | directory (l : Location)
  /-- To a name in a directory, which may be missing there. -/
  | entry (parent : Location) (name : Text) (slash : Bool)
  deriving DecidableEq, Repr

namespace FileSystem

def tree (fs : FileSystem) : Tree := .directory fs.entries

def node? (fs : FileSystem) (l : Location) : Option Node := fs.tree.node? l

/-- The file system with another tree at a location. -/
def set (fs : FileSystem) (l : Location) (t : Tree) : FileSystem :=
  { fs with entries := (fs.tree.set l t).entries }

/-- The file system without what lies at a location. -/
def erase (fs : FileSystem) (l : Location) : FileSystem :=
  { fs with entries := (fs.tree.erase l).entries }

/-- The longest name, in bytes. -/
def nameLimit : Nat := 255

/-- A path of this many bytes is too long. -/
def pathLimit : Nat := 4096

/-- How many links are followed for one path. -/
def linkLimit : Nat := 40

/-- The steps of a route for an operation: where a slash asks for a directory, it is one more
step. -/
def stepsFor (last : LastName) (route : Route) : List PathStep :=
  if last = .followed ∧ route.endsInSlash then route.steps ++ [.here] else route.steps

/-- Takes the steps one by one from the directory at `at`. A link is left to `follow`, with the
steps that come after it. -/
def walkSteps (fs : FileSystem) (last : LastName) (slash : Bool)
    (follow : Location → Route → Except Failure Place) :
    Location → List PathStep → Except Failure Place
  | l, [] => .ok (.directory l)
  | l, .here :: rest => walkSteps fs last slash follow l rest
  | l, .up :: rest => walkSteps fs last slash follow l.dropLast rest
  | l, .name text :: rest =>
    if rest = [] ∧ last = .made ∧ slash then .ok (.entry l text true)
    else if nameLimit < Text.Utf8.size text then .error .nameTooLong
    else
      match fs.node? (l ++ [text]) with
      | some (.link target) =>
        if rest = [] ∧ last = .kept then .ok (.entry l text slash)
        else
          let route := Route.ofPath target
          follow l
            { route with
              steps := route.steps ++ rest
              endsInSlash := if rest = [] then route.endsInSlash else slash }
      | found =>
        if rest = [] then .ok (.entry l text slash)
        else
          match found with
          | some .directory => walkSteps fs last slash follow (l ++ [text]) rest
          | some _ => .error .notDirectory
          | none => .error .notFound

/-- Follows a route from a directory; `links` more links may be met. -/
def walk (fs : FileSystem) (last : LastName) : (links : Nat) → Location → Route →
    Except Failure Place
  | 0, l, route =>
    walkSteps fs last route.endsInSlash (fun _ _ => .error .tooManyLinks)
      (if route.isAbsolute then [] else l) (stepsFor last route)
  | links + 1, l, route =>
    walkSteps fs last route.endsInSlash (walk fs last links)
      (if route.isAbsolute then [] else l) (stepsFor last route)

/-- Where a path leads. -/
def place (fs : FileSystem) (last : LastName) (p : Path) : Except Failure Place :=
  if '\x00' ∈ p then .error .nulInPath
  else if p = [] then .error .notFound
  else if pathLimit ≤ Text.Utf8.size p then .error .nameTooLong
  else walk fs last linkLimit fs.workingDirectory (Route.ofPath p)

end FileSystem

end ShaderTools
