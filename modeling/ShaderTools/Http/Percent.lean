import ShaderTools.Text.Utf8

/-!
Percent-encoding. A byte that may not stand for itself in an address is written as a percent sign
and two hexadecimal digits.
-/

namespace ShaderTools.Http

/-- A digit in upper-case hexadecimal. -/
def upperDigit (d : Nat) : Char := if d < 10 then Char.ofNat (48 + d) else Char.ofNat (55 + d)

/-- The value of a hexadecimal digit of either case. -/
def hexValue? (c : Char) : Option Nat :=
  if '0' ≤ c ∧ c ≤ '9' then some (c.toNat - 48)
  else if 'a' ≤ c ∧ c ≤ 'f' then some (c.toNat - 87)
  else if 'A' ≤ c ∧ c ≤ 'F' then some (c.toNat - 55)
  else none

/-- A byte as a percent sign and two digits. -/
def percentByte (b : UInt8) : Text :=
  ['%', upperDigit (b.toNat / 16), upperDigit (b.toNat % 16)]

/-- A text in which controls, characters outside ASCII, and those that `isReserved` names are
percent-encoded. -/
def percentEncode (isReserved : Char → Bool) (t : Text) : Text :=
  t.flatMap fun c =>
    if c.toNat < 0x20 || 0x7e < c.toNat || isReserved c then
      (String.utf8EncodeChar c).flatMap percentByte
    else [c]

/-- The bytes that a percent-encoded text spells. A percent sign that is not followed by two digits
stands for itself. -/
def percentDecode : Text → Bytes
  | [] => []
  | '%' :: high :: low :: rest =>
    match hexValue? high, hexValue? low with
    | some h, some l => (16 * h + l).toUInt8 :: percentDecode rest
    | _, _ => 0x25 :: percentDecode (high :: low :: rest)
  | c :: rest => String.utf8EncodeChar c ++ percentDecode rest

end ShaderTools.Http
