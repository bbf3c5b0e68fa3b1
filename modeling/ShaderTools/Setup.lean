import ShaderTools.Download
import ShaderTools.Install.Script
import ShaderTools.Platform

/-!
Setting up the validator for a platform: its release archive is downloaded, and only an archive
that arrived whole is installed from.
-/

namespace ShaderTools.Setup

variable [Archive.Decoders]

/-- Why the validator is not set up. -/
inductive Error where
  | selection (error : UnknownPlatform)
  | download (error : Download.Error)
  | install (error : Install.Error)
  deriving DecidableEq, Repr

namespace Error

/-- The wording of a setup error. -/
def message : Error → Text
  | selection error => error.message
  | download error => "Download failed: ".toList ++ error.message
  | install error => "Install failed: ".toList ++ error.message

/-- The wordings of the causes of a setup error, the outer ones first. -/
def causes : Error → List Text
  | selection _ => []
  | download error => error.message :: error.causes
  | install error => error.message :: error.causes

end Error

/-- The validator for a platform is installed. -/
def installed (p : Platform) (path : Path) : Log.Event :=
  { level := .info
    target := "mcglsl_core::setup".toList
    message := "validator installed".toList
    fields := [("platform".toList, p.label), ("path".toList, path)] }

/-- Downloads the release archive for a platform from below a base address, and installs its
validator below a directory. -/
def forPlatform (p : Platform) (base : Text) (destination : Path) :
    Script (Except Error Path) := do
  match ← download (p.archiveUrl base) with
  | .error error => return .error (.download error)
  | .ok archive =>
    match ← Install.script archive p.entryName destination with
    | .error error => return .error (.install error)
    | .ok path =>
      Script.log (installed p path)
      return .ok path

/-- Does the same for the platform of a number, and nothing for a number that has none. -/
def forSelection (selection : Int) (base : Text) (destination : Path) :
    Script (Except Error Path) :=
  match Platform.ofCode selection with
  | .error error => pure (.error (.selection error))
  | .ok p => forPlatform p base destination

end ShaderTools.Setup
