import ShaderTools.Text.Basic

/-!
Paths as texts. Two paths are compared, and their last names taken, by components: repeated slashes,
a slash at the end and a dot that is not at the start do not count, but a double dot stands. Joining
two paths keeps every character of both, and the paths above a path are its beginnings, as they were
written.
-/

namespace ShaderTools

/-- A path, as it was written. -/
abbrev Path := Text

namespace Path

inductive Component where
  /-- The slash that an absolute path starts with. -/
  | root
  /-- A dot at the start of a relative path. -/
  | current
  /-- A double dot. -/
  | parent
  /-- A name. -/
  | name (text : Text)
  deriving DecidableEq, Repr

/-- The texts between the slashes of a path, without empty ones. -/
def pieces (p : Path) : List Text := Text.words (· = '/') p

/-- Whether a path starts at the root. -/
def isAbsolute (p : Path) : Bool := p.head? = some '/'

/-- The component of a piece that is not the first one. -/
def componentOfPiece (piece : Text) : Option Component :=
  if piece = ['.'] then none
  else if piece = ['.', '.'] then some .parent
  else some (.name piece)

def components (p : Path) : List Component :=
  let start :=
    if p.isAbsolute then [.root]
    else if p.pieces.head? = some ['.'] then [.current]
    else []
  start ++ p.pieces.filterMap componentOfPiece

/-- A path followed by a relative one. -/
def join (p relative : Path) : Path :=
  if p = [] ∨ p.getLast? = some '/' then p ++ relative else p ++ '/' :: relative

def Component.text : Component → Text
  | root => ['/']
  | current => ['.']
  | parent => ['.', '.']
  | name text => text

/-- Whether a piece of a path is no component. -/
def isSkipped (piece : Text) : Bool := piece = [] || piece = ['.']

/-- The slash or the dot that a path starts with, and what follows. -/
def cutStart : Path → Text × Text
  | '/' :: rest => (['/'], rest)
  | ['.'] => (['.'], [])
  | '.' :: '/' :: rest => (['.'], '/' :: rest)
  | p => ([], p)

/-- The paths above one that is given by its start and its pieces, the last one first. -/
def above (start : Text) : List Text → List Path
  | [] => if start = ['.'] then [[]] else []
  | last :: pieces =>
    if isSkipped last then above start pieces
    else
      (start ++ List.intercalate ['/'] (pieces.dropWhile isSkipped).reverse) :: above start pieces

/-- The paths above a path, the nearest one first. A relative path lies below the empty one. -/
def ancestors (p : Path) : List Path :=
  let (start, rest) := p.cutStart
  above start (Text.split (· = '/') rest).reverse

/-- The path without its last component, unless it has none or is the root. -/
def parent? (p : Path) : Option Path := p.ancestors.head?

/-- The last component of a path, if it is a name. -/
def fileName? (p : Path) : Option Text :=
  match p.components.getLast? with
  | some (.name text) => some text
  | _ => none

/-- Whether two paths have the same components. -/
def sameAs (p q : Path) : Bool := p.components = q.components

/-- The path seen from the root, in a given working directory. It keeps double dots, exactly two
slashes at the start, and a slash at the end. -/
def absolute (p workingDirectory : Path) : Path :=
  let twoSlashes := ['/', '/'].isPrefixOf p && p[2]? ≠ some '/'
  let below := p.components.filter fun c => c ≠ .root ∧ c ≠ .current
  let start : Path :=
    if !p.isAbsolute then workingDirectory else if twoSlashes then ['/', '/'] else ['/']
  let whole := below.foldl (fun q c => q.join c.text) start
  if p.getLast? = some '/' then whole.join [] else whole

/-- How deep a relative path lies below its start; none if it is absolute or leaves its start on
the way. -/
def depth? (p : Path) : Option Nat :=
  p.components.foldlM (fun depth c =>
    match c with
    | .root => none
    | .current => some depth
    | .parent => if depth = 0 then none else some (depth - 1)
    | .name _ => some (depth + 1)) 0

end Path

end ShaderTools
