import ShaderTools.Json.Basic
import ShaderTools.Uniform.Listing

/-!
Uniforms as completion snippets. The editor takes a snippet as a JSON object of a label and the
detail shown beside it.
-/

namespace ShaderTools

def Uniform.snippet (u : Uniform) : Json :=
  .object [("label".toList, .string u.label), ("detail".toList, .string u.shownDetail)]

/-- Uniforms as the text of a JSON array, ended by a line feed. -/
def snippetsText (uniforms : List Uniform) : Text :=
  (Json.array (uniforms.map Uniform.snippet)).pretty 0 ++ ['\n']

end ShaderTools
