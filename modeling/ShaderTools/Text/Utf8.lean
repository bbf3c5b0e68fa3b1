import ShaderTools.Bytes
import ShaderTools.Text.Basic

/-!
Text as bytes in UTF-8. `units` reads bytes one unit at a time: a unit is a character, or the
longest run of bytes that starts a character without completing one. `decode?` refuses bytes that
hold such a run; `decodeLossy` puts the replacement character in its place.
-/

namespace ShaderTools.Text.Utf8

/-- A character that has begun: how many more bytes it needs, the bounds of the next one, and the
bits read so far. -/
structure Pending where
  owed : Nat
  low : Nat
  high : Nat
  bits : Nat

/-- What a byte starts: a whole character, a longer one, or nothing. -/
inductive Start where
  | whole (c : Char)
  | longer (pending : Pending)
  | nothing

/-- The start of a character at a byte. Overlong forms, surrogates and codes above `10FFFF` are
shut out by the bounds of the second byte. -/
def start (b : UInt8) : Start :=
  let n := b.toNat
  if n < 0x80 then .whole (Char.ofNat n)
  else if 0xc2 ≤ n ∧ n ≤ 0xdf then .longer ⟨1, 0x80, 0xbf, n - 0xc0⟩
  else if 0xe0 ≤ n ∧ n ≤ 0xef then
    .longer ⟨2, if n = 0xe0 then 0xa0 else 0x80, if n = 0xed then 0x9f else 0xbf, n - 0xe0⟩
  else if 0xf0 ≤ n ∧ n ≤ 0xf4 then
    .longer ⟨3, if n = 0xf0 then 0x90 else 0x80, if n = 0xf4 then 0x8f else 0xbf, n - 0xf0⟩
  else .nothing

/-- The units of a byte sequence, `none` for a run that is no character. -/
def unitsFrom : Option Pending → Bytes → List (Option Char)
  | none, [] => []
  | some _, [] => [none]
  | none, b :: rest =>
    match start b with
    | .whole c => some c :: unitsFrom none rest
    | .longer pending => unitsFrom (some pending) rest
    | .nothing => none :: unitsFrom none rest
  | some p, b :: rest =>
    let n := b.toNat
    if p.low ≤ n ∧ n ≤ p.high then
      let bits := 64 * p.bits + (n - 0x80)
      if p.owed ≤ 1 then some (Char.ofNat bits) :: unitsFrom none rest
      else unitsFrom (some ⟨p.owed - 1, 0x80, 0xbf, bits⟩) rest
    else
      none :: match start b with
        | .whole c => some c :: unitsFrom none rest
        | .longer pending => unitsFrom (some pending) rest
        | .nothing => none :: unitsFrom none rest

/-- The units of a byte sequence from its beginning. -/
def units (bytes : Bytes) : List (Option Char) := unitsFrom none bytes

/-- The text that the bytes spell, if they are UTF-8. -/
def decode? (bytes : Bytes) : Option Text := (units bytes).mapM id

/-- The text that the bytes spell, with U+FFFD for each run that is no character. -/
def decodeLossy (bytes : Bytes) : Text := (units bytes).map (·.getD '\ufffd')

def encode (t : Text) : Bytes := t.flatMap String.utf8EncodeChar

/-- How many bytes a text takes. -/
def size (t : Text) : Nat := t.foldr (fun c size => c.utf8Size + size) 0

end ShaderTools.Text.Utf8
