import ShaderTools.Text.Numeral

/-!
Reports of failed runs: what failed, and below it the causes, the outer ones first. Several causes
are numbered, and the lines of a cause are indented alike.
-/

namespace ShaderTools.Terminal

/-- A text with an indent behind each of its line feeds. -/
def indentLines (indent t : Text) : Text :=
  t.flatMap fun c => if c = '\n' then '\n' :: indent else [c]

/-- A number at the right of five columns. -/
def causeNumber (n : Nat) : Text :=
  List.replicate (5 - (Text.ofNat n).length) ' ' ++ Text.ofNat n ++ ": ".toList

/-- The lines of causes that are numbered, from a number on. -/
def numberedCauses (n : Nat) : List Text → Text
  | [] => []
  | cause :: rest =>
    '\n' :: (causeNumber n ++ indentLines (List.replicate 7 ' ') cause)
      ++ numberedCauses (n + 1) rest

def report (what : Text) (causes : List Text) : Text :=
  "Error: ".toList ++ what
    ++ (match causes with
        | [] => []
        | [cause] =>
          "\n\nCaused by:\n    ".toList ++ indentLines (List.replicate 4 ' ') cause
        | causes => "\n\nCaused by:".toList ++ numberedCauses 0 causes)
    ++ ['\n']

end ShaderTools.Terminal
