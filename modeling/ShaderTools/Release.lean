import ShaderTools.Text.Blank
import ShaderTools.Text.Utf8

/-!
The release of this program, the line of the editor's settings that names an installed validator,
and the address that the validator's releases are downloaded from.
-/

namespace ShaderTools

def version : Text := "0.1.0".toList

/-- What the program calls itself towards a server. -/
def userAgent : Text := "mcglsl/".toList ++ version

/-- The key of the editor's setting for the validator's path. -/
def settingKey : Text := "mcglsl.glslangValidatorPath".toList

/-- The line of the editor's settings for a validator, in which each backslash is doubled. -/
def settingEntry (path : Text) : Text :=
  '"' :: (settingKey ++ "\": \"".toList
    ++ path.flatMap (fun c => if c = '\\' then ['\\', '\\'] else [c]) ++ ['"'])

namespace Release

/-- The address of the releases, unless another one is given. -/
def defaultAddress : Text :=
  "https://github.com/KhronosGroup/glslang/releases/download/master-tot".toList

/-- The environment variable that gives another address. -/
def addressVariable : Text := "MCGLSL_RELEASE_URL".toList

/-- A base address without blanks around it and without slashes at its end. -/
def tidy (base : Text) : Text := base.trim.dropEndWhile (· = '/')

/-- The base address for an optional override; a blank override does not count. -/
def address (override? : Option Text) : Text :=
  tidy ((override?.filter fun t => !t.trim.isEmpty).getD defaultAddress)

/-- The base address for the bytes of the environment variable; bytes that are not UTF-8 do not
count. -/
def addressOfVariable (value? : Option Bytes) : Text :=
  address (value?.bind Text.Utf8.decode?)

end Release

end ShaderTools
