import ShaderTools.Archive.Payload
import ShaderTools.FileSystem.Action

/-!
Installing one entry of an archive below a directory. The entry is staged under its whole name,
given the mode it has in the archive, moved up under its last name alone, and the directory it was
staged in is removed, which fails unless that directory is then empty. Last of all the working
directory is asked for, if the path of the file is a relative one, and that fails if it is the
directory that was removed. What an installation has done when it fails is not taken back.
-/

namespace ShaderTools

namespace Install

/-- What goes wrong while files are written: the file system refuses, or the data is faulty. -/
inductive WriteError where
  | refused (failure : Failure)
  | faulty (fault : Archive.DataFault)
  deriving DecidableEq, Repr

/-- The wording of what went wrong while writing. -/
def WriteError.message : WriteError → Text
  | refused failure => failure.message
  | faulty fault => fault.message

/-- Why an entry is not installed. -/
inductive Error where
  /-- Writing, moving or removing failed. -/
  | writing (error : WriteError)
  /-- The archive, or the entry in it, cannot be read. -/
  | archive (error : Archive.Error)
  /-- The archive has no entry of that name. -/
  | missingEntry (name : Text)
  /-- The name does not stand for a file below the directory. -/
  | invalidPath (name : Text)
  deriving DecidableEq, Repr

namespace Error

/-- The wording of an install error. -/
def message : Error → Text
  | writing error => "IO error: ".toList ++ error.message
  | archive error => "Archive error: ".toList ++ error.message
  | missingEntry name => "Entry '".toList ++ name ++ "' not found in archive".toList
  | invalidPath name => "Invalid path in archive: ".toList ++ name

/-- The wordings of the causes of an install error, the outer ones first. -/
def causes : Error → List Text
  | writing error => [error.message]
  | archive _ | missingEntry _ | invalidPath _ => []

end Error

/-- An entry that was found in an archive, and the name of the file it is to become. -/
structure Selected where
  relative : Path
  fileName : Text
  mode? : Option Nat
  payload : Archive.Payload

/-- The path of an entry's name, if it stays below the directory it is taken from. -/
def enclosed? (name : Text) : Option Path :=
  if '\x00' ∈ name then none
  else if (Path.depth? name).isSome then some name
  else none

/-- Finds an entry, and refuses a name that does not end in a file name below its start. -/
def select [Archive.Decoders] (archive : Bytes) (name : Text) : Except Error Selected := do
  let entries ← (Archive.entries archive).mapError .archive
  match Archive.entryNamed? name entries with
  | none => throw (.missingEntry name)
  | some entry =>
    let payload ← (entry.payload archive).mapError .archive
    match enclosed? name with
    | none => throw (.invalidPath name)
    | some relative =>
      match relative.fileName? with
      | none => throw (.invalidPath name)
      | some fileName => return { relative, fileName, mode? := entry.mode?, payload }

/-- The paths of an installation: where the entry is staged, the directory made for that, if it is
not the destination itself, and where the file ends up. -/
structure Plan where
  staged : Path
  stagingDirectory? : Option Path
  final : Path

/-- The plan for a path of an entry, its last name, and a destination. -/
def Plan.of (relative : Path) (fileName : Text) (destination : Path) : Plan :=
  let staged := destination.join relative
  { staged
    stagingDirectory? := staged.parent?.filter fun directory => !directory.sameAs destination
    final := destination.join fileName }

inductive Step where
  | change (change : FileChange)
  /-- The data of the entry turns out to be faulty. -/
  | fault (fault : Archive.DataFault)
  deriving DecidableEq, Repr

/-- The steps up to a whole file under its staged path. What was decoded of faulty data is written
before the fault shows. -/
def Plan.stagingSteps (plan : Plan) (mode? : Option Nat) (payload : Archive.Payload) : List Step :=
  plan.stagingDirectory?.toList.map (fun directory => .change (.makeDirectories directory))
    ++ [.change (.overwrite plan.staged payload.bytes)]
    ++ payload.fault.toList.map .fault
    ++ mode?.toList.map fun mode => .change (.setMode plan.staged mode)

/-- The steps that move a staged file to where it ends up. -/
def Plan.movingSteps (plan : Plan) : List Step :=
  (if plan.staged.sameAs plan.final then [] else [.change (.rename plan.staged plan.final)])
    ++ plan.stagingDirectory?.toList.map fun directory => .change (.removeDirectory directory)

def Plan.steps (plan : Plan) (mode? : Option Nat) (payload : Archive.Payload) : List Step :=
  plan.stagingSteps mode? payload ++ plan.movingSteps

/-- A failure of the file system, told as a failure of an installation. -/
def refusal (failure : Failure) : Error := .writing (.refused failure)

/-- Carries out a step. -/
def Step.perform : Step → FileAction Error Unit
  | change c => c.perform.mapError refusal
  | fault f => throw (.writing (.faulty f))

/-- Carries out steps until one fails. -/
def performAll : List Step → FileAction Error Unit
  | [] => pure ()
  | step :: rest => do
    step.perform
    performAll rest

theorem performAll_append (first second : List Step) (fs : FileSystem) :
    performAll (first ++ second) fs =
      match performAll first fs with
      | .ok _ now => performAll second now
      | .error error now => .error error now := by
  induction first generalizing fs with
  | nil => rfl
  | cons step rest ih =>
      simp only [List.cons_append, performAll, bind, EStateM.bind]
      cases step.perform fs with
      | ok value now => exact ih now
      | error error now => rfl

variable [Archive.Decoders]

/-- Installs the entry of a name below a directory, and returns the absolute path of the file. Links
in the path of the directory stay in it. -/
def action (archive : Bytes) (name : Text) (destination : Path) :
    FileAction Error Path := do
  let selected ← FileAction.decided (select archive name)
  let plan := Plan.of selected.relative selected.fileName destination
  performAll (plan.steps selected.mode? selected.payload)
  let fs ← get
  FileAction.decided ((fs.absolute plan.final).mapError refusal)

theorem action_of_select {archive : Bytes} {name : Text} {selected : Selected}
    (h : select archive name = .ok selected) (destination : Path) (fs : FileSystem) :
    action archive name destination fs =
      let plan := Plan.of selected.relative selected.fileName destination
      match performAll (plan.steps selected.mode? selected.payload) fs with
      | .ok _ after =>
        match after.absolute plan.final with
        | .ok path => .ok path after
        | .error failure => .error (refusal failure) after
      | .error error after => .error error after := by
  simp only [action, FileAction.decided, h, bind, EStateM.bind]
  split <;> rename_i hp <;> simp only [hp]
  next after =>
    change FileAction.decided
      ((after.absolute (Plan.of selected.relative selected.fileName destination).final).mapError
        refusal) after = _
    cases after.absolute (Plan.of selected.relative selected.fileName destination).final <;> rfl

theorem action_of_not_select {archive : Bytes} {name : Text} {error : Error}
    (h : select archive name = .error error) (destination : Path) (fs : FileSystem) :
    action archive name destination fs = .error error fs := by
  simp only [action, FileAction.decided, h, bind, EStateM.bind]

end Install

end ShaderTools
