/-!
Byte sequences: slices, lines, numbers written with the lowest byte first, and the places where a
pattern occurs.
-/

namespace ShaderTools

abbrev Bytes := List UInt8

namespace Bytes

/-- The number that bytes spell, lowest byte first. -/
def littleEndian : Bytes → Nat
  | [] => 0
  | b :: rest => b.toNat + 256 * littleEndian rest

/-- At most `count` bytes from `offset` on. -/
def slice (offset count : Nat) (bytes : Bytes) : Bytes := (bytes.drop offset).take count

def number (offset count : Nat) (bytes : Bytes) : Nat := littleEndian (slice offset count bytes)

/-- The positions, from `index` on, at which a pattern starts, in increasing order. -/
def occurrences (pattern : Bytes) (index : Nat) : Bytes → List Nat
  | [] => []
  | b :: rest =>
    if pattern.isPrefixOf (b :: rest) then index :: occurrences pattern (index + 1) rest
    else occurrences pattern (index + 1) rest

/-- The bytes up to the first line feed and with it, all of them if there is none. -/
def firstLine (bytes : Bytes) : Bytes :=
  bytes.takeWhile (· ≠ 0x0a) ++ (bytes.dropWhile (· ≠ 0x0a)).take 1

/-- The bytes behind the first line feed. -/
def afterFirstLine (bytes : Bytes) : Bytes := (bytes.dropWhile (· ≠ 0x0a)).drop 1

theorem firstLine_append_afterFirstLine (bytes : Bytes) :
    firstLine bytes ++ afterFirstLine bytes = bytes := by
  rw [firstLine, afterFirstLine, List.append_assoc, List.take_append_drop,
    List.takeWhile_append_dropWhile]

end Bytes

end ShaderTools
