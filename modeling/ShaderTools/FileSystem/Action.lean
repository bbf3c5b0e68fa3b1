import ShaderTools.FileSystem.Operations

/-!
Actions on a file system: chains of operations that keep what was done before a failure. Making a
directory together with all that are missing above it is such a chain. A change is an operation
that is named before it is carried out.
-/

namespace ShaderTools

/-- An action on a file system, which keeps what was done before a failure. -/
abbrev FileAction (ε α : Type) := EStateM ε FileSystem α

namespace FileAction

/-- A single operation. -/
def perform (operation : FileSystem → Except Failure FileSystem) : FileAction Failure Unit :=
  fun fs =>
    match operation fs with
    | .ok after => .ok () after
    | .error failure => .error failure fs

/-- A decision that does not touch the file system. -/
def decided {ε α : Type} (result : Except ε α) : FileAction ε α := fun fs =>
  match result with
  | .ok value => .ok value fs
  | .error error => .error error fs

/-- An action with its failures told in another way. -/
def mapError {ε ε' α : Type} (tell : ε → ε') (action : FileAction ε α) : FileAction ε' α :=
  fun fs =>
    match action fs with
    | .ok value after => .ok value after
    | .error error after => .error (tell error) after

end FileAction

namespace FileSystem

/-- Makes a directory; if one above it is missing, `makeAbove` is done first. A failure does not
count where a directory is there already. -/
def makeDirectoryAfter (makeAbove : FileAction Failure Unit) (p : Path) :
    FileAction Failure Unit := fun fs =>
  match fs.makeDirectory p with
  | .ok after => .ok () after
  | .error .notFound =>
    match makeAbove fs with
    | .error failure after => .error failure after
    | .ok () after =>
      match after.makeDirectory p with
      | .ok made => .ok () made
      | .error failure => if after.isDirectory p then .ok () after else .error failure after
  | .error failure => if fs.isDirectory p then .ok () fs else .error failure fs

/-- Makes the first of some directories, each of which lies in the next one, and all that are
missing above it. An empty path asks for none. -/
def makeDirectoriesOf : List Path → FileAction Failure Unit
  | [] => pure ()
  | p :: above => if p = [] then pure () else makeDirectoryAfter (makeDirectoriesOf above) p

/-- Makes a directory and all that are missing above it. -/
def makeDirectories (p : Path) : FileAction Failure Unit := makeDirectoriesOf (p :: p.ancestors)

end FileSystem

/-- A change of a file system that a program asks for. -/
inductive FileChange where
  /-- A directory and all that are missing above it are made. -/
  | makeDirectories (path : Path)
  | overwrite (path : Path) (content : Bytes)
  | setMode (path : Path) (mode : Nat)
  | rename (source target : Path)
  | removeDirectory (path : Path)
  deriving DecidableEq, Repr

/-- Carries out a change. -/
def FileChange.perform : FileChange → FileAction Failure Unit
  | makeDirectories path => FileSystem.makeDirectories path
  | overwrite path content => FileAction.perform (·.overwrite path content)
  | setMode path mode => FileAction.perform (·.setMode path mode)
  | rename source target => FileAction.perform (·.rename source target)
  | removeDirectory path => FileAction.perform (·.removeDirectory path)

end ShaderTools
