import ShaderTools.Text.Blank
import ShaderTools.Text.Numeral

/-!
The platforms that the validator is released for, and their selection by a number. A selection is
read from a text as a decimal numeral between blanks; anything but the three numbers is refused.
-/

namespace ShaderTools

/-- A platform that the validator is released for. -/
inductive Platform where
  | windows
  | linux
  | osx
  deriving DecidableEq, Repr

/-- A selection that names no platform: the number, or the text where it is no number. -/
structure UnknownPlatform where
  value : Text
  deriving DecidableEq, Repr

/-- The wording of a selection error. -/
def UnknownPlatform.message (_ : UnknownPlatform) : Text :=
  "Invalid OS. Please only choose a value between 0 and 2".toList

def validatorName : Text := "glslangValidator".toList

namespace Platform

/-- Every platform, in the order of its number. -/
def all : List Platform := [windows, linux, osx]

/-- The platform that this program runs on. -/
def native : Platform := linux

/-- The number of a platform. -/
def code : Platform → Nat
  | windows => 0
  | linux => 1
  | osx => 2

/-- The name of a platform in the menu. -/
def label : Platform → Text
  | windows => "Windows".toList
  | linux => "Linux".toList
  | osx => "OSX".toList

/-- The name of a platform in the log. -/
def name : Platform → Text
  | windows => "Windows".toList
  | linux => "Linux".toList
  | osx => "Osx".toList

def archiveName : Platform → Text
  | windows => "glslang-master-windows-x64-Release.zip".toList
  | linux => "glslang-master-linux-Release.zip".toList
  | osx => "glslang-master-osx-Release.zip".toList

/-- The name of the validator's file. -/
def fileName : Platform → Text
  | windows => validatorName ++ ".exe".toList
  | linux => validatorName
  | osx => validatorName

/-- The name of the validator's entry in the release archive. -/
def entryName (p : Platform) : Text := "bin/".toList ++ p.fileName

/-- The address of the release archive below a base address. -/
def archiveUrl (p : Platform) (base : Text) : Text :=
  base.dropEndWhile (· = '/') ++ '/' :: p.archiveName

def ofCode (code : Int) : Except UnknownPlatform Platform :=
  if code = 0 then .ok windows
  else if code = 1 then .ok linux
  else if code = 2 then .ok osx
  else .error ⟨Text.ofInt code⟩

def ofText (t : Text) : Except UnknownPlatform Platform :=
  match Text.wordValue? t.trim with
  | some code => ofCode code
  | none => .error ⟨t.trim⟩

/-- The question that asks for a platform, one line for each. -/
def menu : Text :=
  "Choose your OS:\n".toList
    ++ all.flatMap (fun p => " - ".toList ++ Text.ofNat p.code ++ ": ".toList ++ p.label ++ ['\n'])
    ++ "> ".toList

end Platform

end ShaderTools
