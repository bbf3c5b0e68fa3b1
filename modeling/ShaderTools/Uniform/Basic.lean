import ShaderTools.Text.Blank

/-!
Uniforms of shaders, as an editor completes them. A declaration is a line whose first word starts
with `uniform`; its second word is the type, its third the name, and all further words are detail.
-/

namespace ShaderTools

/-- A uniform: its name as the label of a completion, its type without angle brackets, and the text
behind the name. -/
structure Uniform where
  label : Text
  kind : Text
  detail : Text
  deriving DecidableEq, Repr

namespace Uniform

/-- What a declaration starts with. -/
def keyword : Text := "uniform".toList

def isDeclaredBy (line : Text) : Bool := keyword.isPrefixOf line.trim

/-- The uniform of a declaration. One angle bracket is taken off either end of the type, one
semicolon off the end of the name, and the words of the detail are joined by single spaces. A line
of fewer than three words declares none. -/
def ofLine? (line : Text) : Option Uniform :=
  match line.fields with
  | _ :: kind :: label :: details =>
    some
      { label := label.withoutLast ';'
        kind := (kind.withoutFirst '<').withoutLast '>'
        detail := List.intercalate [' '] details }
  | _ => none

/-- The text shown beside a name: its type in angle brackets, and the detail if there is one. -/
def shownDetail (u : Uniform) : Text :=
  let kind := '<' :: (u.kind ++ ['>'])
  if u.detail.isEmpty then kind else kind ++ ' ' :: u.detail

/-- The uniform as an entry of an object list, with a comma behind it. -/
def block (u : Uniform) : Text :=
  "\x7b\n\tlabel: '".toList ++ u.label ++ "',\n\tdetail: '".toList ++ u.shownDetail
    ++ "'\n\x7d,".toList

/-- The uniform as a declaration that is read back as the same uniform. -/
def declaration (u : Uniform) : Text :=
  keyword ++ " <".toList ++ u.kind ++ "> ".toList ++ u.label ++ "; ".toList ++ u.detail

end Uniform

end ShaderTools
