import ShaderTools.FileSystem.Walk

/-!
The operations of a file system. Each either takes place as a whole or fails and changes nothing.
They are done by the owner of all files, who is an ordinary user: a file is opened only if its
mode lets its owner. New files have the mode `644`, as a mask of `022` leaves it; directories carry
no mode. In a directory that was removed nothing can be made.
-/

namespace ShaderTools.FileSystem

def newFileMode : Nat := 0o644

/-- The bits that a file's mode has. -/
def modeMask : Nat := 0o7777

def ownerMayWrite (mode : Nat) : Bool := mode.testBit 7

def ownerMayRead (mode : Nat) : Bool := mode.testBit 8

/-- The mode of a file that was written to: it no longer sets the user, nor the group if the group
may run the file. -/
def modeAfterWrite (mode : Nat) : Nat :=
  let mode := if mode.testBit 11 then mode - 0o4000 else mode
  if mode.testBit 10 && mode.testBit 3 then mode - 0o2000 else mode

/-- The file system with a tree under a name that is free. The working directory may have been
removed, and then there is nothing that a name could be in. -/
def add (fs : FileSystem) (parent : Location) (name : Text) (t : Tree) :
    Except Failure FileSystem :=
  if fs.node? parent = some .directory then .ok (fs.set (parent ++ [name]) t)
  else .error .notFound

theorem add_of_directory {fs : FileSystem} {parent : Location}
    (h : fs.node? parent = some .directory) (name : Text) (t : Tree) :
    fs.add parent name t = .ok (fs.set (parent ++ [name]) t) := if_pos h

theorem of_add_eq_ok {fs after : FileSystem} {parent : Location} {name : Text} {t : Tree}
    (h : fs.add parent name t = .ok after) :
    fs.node? parent = some .directory ∧ fs.set (parent ++ [name]) t = after := by
  unfold add at h
  split at h
  · next hdirectory => exact ⟨hdirectory, Except.ok.inj h⟩
  · simp at h

/-- Makes a directory where nothing is. -/
def makeDirectory (fs : FileSystem) (p : Path) : Except Failure FileSystem := do
  match ← fs.place .kept p with
  | .directory _ => throw .exists
  | .entry parent name _ =>
    match fs.node? (parent ++ [name]) with
    | some _ => throw .exists
    | none => fs.add parent name (.directory [])

/-- What lies at the end of a path, links followed. -/
def status (fs : FileSystem) (p : Path) : Except Failure (Location × Node) := do
  match ← fs.place .followed p with
  | .directory l => return (l, .directory)
  | .entry parent name _ =>
    match fs.node? (parent ++ [name]) with
    | some node => return (parent ++ [name], node)
    | none => throw .notFound

def isDirectory (fs : FileSystem) (p : Path) : Bool :=
  match fs.status p with
  | .ok (_, .directory) => true
  | _ => false

/-- Writes a file from its beginning, making it if nothing is there. A link is followed, also to
where nothing is yet. -/
def overwrite (fs : FileSystem) (p : Path) (content : Bytes) : Except Failure FileSystem := do
  match ← fs.place .made p with
  | .directory _ => throw .isDirectory
  | .entry parent name slash =>
    let l := parent ++ [name]
    if slash then throw .isDirectory
    else
      match fs.node? l with
      | none => fs.add parent name (.file newFileMode content)
      | some (.file mode _) =>
        if ownerMayWrite mode then return fs.set l (.file (modeAfterWrite mode) content)
        else throw .permissionDenied
      | some .directory => throw .isDirectory
      | some (.link _) => throw .tooManyLinks

/-- Gives a file another mode. A link is followed; a directory stays as it is. -/
def setMode (fs : FileSystem) (p : Path) (mode : Nat) : Except Failure FileSystem := do
  match ← fs.status p with
  | (l, .file _ content) => return fs.set l (.file (mode &&& modeMask) content)
  | _ => return fs

/-- The bytes of a file, links followed. -/
def read (fs : FileSystem) (p : Path) : Except Failure Bytes := do
  match ← fs.status p with
  | (_, .file mode content) => if ownerMayRead mode then return content else throw .permissionDenied
  | _ => throw .isDirectory

/-- The text of bytes that were read. -/
def textOfBytes (bytes : Bytes) : Except Failure Text :=
  match Text.Utf8.decode? bytes with
  | some t => .ok t
  | none => .error .notText

/-- The text of a file, links followed. -/
def readText (fs : FileSystem) (p : Path) : Except Failure Text := (fs.read p).bind textOfBytes

/-- Moves what lies at one path to another, in place of a file or link, or of an empty directory if
a directory is moved. Links stand for themselves. A place above what is moved is never empty. -/
def rename (fs : FileSystem) (source target : Path) : Except Failure FileSystem := do
  match ← fs.place .kept source, ← fs.place .kept target with
  | .entry oldParent oldName oldSlash, .entry newParent newName newSlash =>
    let old := oldParent ++ [oldName]
    let new := newParent ++ [newName]
    match fs.tree.find? old with
    | none => throw .notFound
    | some moved =>
      let movesDirectory := moved.node = .directory
      if !movesDirectory && (oldSlash || newSlash) then throw .notDirectory
      else if old.isPrefixOf newParent then throw .invalidArgument
      else if new.isPrefixOf oldParent then throw .notEmpty
      else if old = new then return fs
      else
        match fs.tree.find? new with
        | some (.directory entries) =>
          if !movesDirectory then throw .isDirectory
          else if entries.isEmpty then return (fs.erase old).set new moved
          else throw .notEmpty
        | some _ =>
          if movesDirectory then throw .notDirectory else return (fs.erase old).set new moved
        | none => (fs.erase old).add newParent newName moved
  | _, _ => throw .busy

/-- Removes an empty directory. A link to one stands for itself and is none. -/
def removeDirectory (fs : FileSystem) (p : Path) : Except Failure FileSystem := do
  match ← fs.place .kept p with
  | .directory _ =>
    match (Route.ofPath p).steps.getLast? with
    | some .up => throw .notEmpty
    | some _ => throw .invalidArgument
    | none => throw .busy
  | .entry parent name _ =>
    match fs.tree.find? (parent ++ [name]) with
    | none => throw .notFound
    | some (.directory entries) =>
      if entries.isEmpty then return fs.erase (parent ++ [name]) else throw .notEmpty
    | some _ => throw .notDirectory

/-- Removes a file or a link. -/
def removeFile (fs : FileSystem) (p : Path) : Except Failure FileSystem := do
  match ← fs.place .kept p with
  | .directory _ => throw .isDirectory
  | .entry parent name slash =>
    match fs.node? (parent ++ [name]) with
    | none => throw .notFound
    | some .directory => throw .isDirectory
    | some _ => if slash then throw .notDirectory else return fs.erase (parent ++ [name])

/-- Makes a symbolic link where nothing is. -/
def makeLink (fs : FileSystem) (p : Path) (target : Text) : Except Failure FileSystem := do
  if '\x00' ∈ target then throw .nulInPath
  else if target = [] then throw .notFound
  else if pathLimit ≤ Text.Utf8.size target then throw .nameTooLong
  else
    match ← fs.place .kept p with
    | .directory _ => throw .exists
    | .entry parent name slash =>
      match fs.node? (parent ++ [name]) with
      | some _ => throw .exists
      | none =>
        if slash then throw .notFound else fs.add parent name (.link target)

def workingPath (fs : FileSystem) : Path := '/' :: List.intercalate ['/'] fs.workingDirectory

/-- The path of the working directory, unless that was removed. -/
def currentDirectory (fs : FileSystem) : Except Failure Path :=
  if fs.node? fs.workingDirectory = some .directory then .ok fs.workingPath else .error .notFound

/-- A path as it is seen from the root. A relative one asks for the working directory. -/
def absolute (fs : FileSystem) (p : Path) : Except Failure Path :=
  if p.isAbsolute then .ok (p.absolute []) else fs.currentDirectory.map p.absolute

/-- What lies below a directory's entries: each name's own node, then all that lies below it, with
the names that lead there. -/
def listing : List (Text × Tree) → List (Location × Node)
  | [] => []
  | (name, t) :: rest =>
    ([name], t.node) ::
      ((match t with
        | .directory entries => (listing entries).map fun below => (name :: below.1, below.2)
        | _ => []) ++ listing rest)

end ShaderTools.FileSystem
