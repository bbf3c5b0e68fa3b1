import ShaderTools.Text.Hidden
import ShaderTools.Text.Numeral

/-!
Quoted text: a text between double quotes, on one line, in which every character can be seen. A
tab, a carriage return, a line feed, a NUL, a double quote and a backslash have escapes of two
characters; a hidden character is written by its code point. `unquote` reads such a text back.
-/

namespace ShaderTools.Text

/-- The characters with an escape of two characters, each with the one behind the backslash. -/
def shortEscapes : List (Char × Char) :=
  [('\x00', '0'), ('\t', 't'), ('\r', 'r'), ('\n', 'n'), ('"', '"'), ('\\', '\\')]

/-- A character as it is written between double quotes. -/
def escape (c : Char) : Text :=
  match shortEscapes.lookup c with
  | some letter => ['\\', letter]
  | none => if isHidden c then ['\\', 'u', '\x7b'] ++ numeral 16 c.toNat ++ ['\x7d'] else [c]

/-- A text between double quotes, each character escaped where it has to be. -/
def quote (t : Text) : Text := '"' :: (t.flatMap escape ++ ['"'])

/-- The character that an escape of two characters stands for. -/
def shortEscape? (letter : Char) : Option Char :=
  (shortEscapes.find? fun escape => escape.2 = letter).map (·.1)

/-- Reads escaped characters up to the closing quote, which must end the text. While a code point
is being read, `code` is the value of the digits so far. -/
def unescape (code : Option Nat) : Text → Option Text
  | [] => none
  | c :: rest =>
    match code with
    | some n =>
      if c = '\x7d' then (unescape none rest).map (Char.ofNat n :: ·)
      else (digitValue? c).bind fun d => unescape (some (16 * n + d)) rest
    | none =>
      if c = '"' then (if rest.isEmpty then some [] else none)
      else if c = '\\' then
        match rest with
        | 'u' :: '\x7b' :: digits => unescape (some 0) digits
        | e :: more => (shortEscape? e).bind fun d => (unescape none more).map (d :: ·)
        | [] => none
      else (unescape none rest).map (c :: ·)

/-- The text that a quoted text stands for. -/
def unquote : Text → Option Text
  | '"' :: rest => unescape none rest
  | _ => none

end ShaderTools.Text
