import ShaderTools.Text.Numeral

/-!
JSON values and their text. A value is written on one line without blanks, or spread over lines
with two blanks for each level; an empty array or object takes no line of its own. In a string, a
double quote, a backslash and the characters below U+0020 are escaped, and all others stand for
themselves.
-/

namespace ShaderTools

/-- A JSON value. A number is kept as it is written, an object as its members in order. -/
inductive Json where
  | null
  | bool (value : Bool)
  | number (written : Text)
  | string (text : Text)
  | array (items : List Json)
  | object (members : List (Text × Json))

namespace Json

/-- The characters with an escape of two characters, each with the one behind the backslash. -/
def shortEscapes : List (Char × Char) :=
  [('"', '"'), ('\\', '\\'), ('\x08', 'b'), ('\x0c', 'f'), ('\n', 'n'), ('\r', 'r'), ('\t', 't')]

/-- A character as it is written in a string. -/
def escape (c : Char) : Text :=
  match shortEscapes.lookup c with
  | some letter => ['\\', letter]
  | none =>
    if c.toNat < 0x20 then ['\\', 'u'] ++ Text.paddedNumeral 16 4 c.toNat else [c]

/-- A text as a JSON string. -/
def quoted (t : Text) : Text := '"' :: (t.flatMap escape ++ ['"'])

mutual

/-- A value on one line. -/
def compact : Json → Text
  | null => "null".toList
  | bool true => "true".toList
  | bool false => "false".toList
  | number written => written
  | string text => quoted text
  | array items => '[' :: (compactItems items ++ [']'])
  | object members => '\x7b' :: (compactMembers members ++ ['\x7d'])

/-- The items of an array, with commas between them. -/
def compactItems : List Json → Text
  | [] => []
  | [item] => item.compact
  | item :: rest => item.compact ++ ',' :: compactItems rest

/-- The members of an object, with commas between them. -/
def compactMembers : List (Text × Json) → Text
  | [] => []
  | [(key, value)] => quoted key ++ ':' :: value.compact
  | (key, value) :: rest => quoted key ++ ':' :: (value.compact ++ ',' :: compactMembers rest)

end

/-- The start of a line at a level. -/
def newLine (level : Nat) : Text := '\n' :: List.replicate (2 * level) ' '

mutual

/-- A value spread over lines, its first line being at the given level. -/
def pretty (level : Nat) : Json → Text
  | null => "null".toList
  | bool true => "true".toList
  | bool false => "false".toList
  | number written => written
  | string text => quoted text
  | array [] => "[]".toList
  | array (item :: rest) =>
    '[' :: (prettyItems (level + 1) (item :: rest) ++ newLine level ++ [']'])
  | object [] => "\x7b\x7d".toList
  | object (member :: rest) =>
    '\x7b' :: (prettyMembers (level + 1) (member :: rest) ++ newLine level ++ ['\x7d'])

/-- The items of an array, each on lines of its own. -/
def prettyItems (level : Nat) : List Json → Text
  | [] => []
  | [item] => newLine level ++ item.pretty level
  | item :: rest => newLine level ++ item.pretty level ++ ',' :: prettyItems level rest

/-- The members of an object, each on lines of its own. -/
def prettyMembers (level : Nat) : List (Text × Json) → Text
  | [] => []
  | [(key, value)] => newLine level ++ quoted key ++ ": ".toList ++ value.pretty level
  | (key, value) :: rest =>
    newLine level ++ quoted key ++ ": ".toList ++ value.pretty level
      ++ ',' :: prettyMembers level rest

end

end Json

end ShaderTools
