import ShaderTools.Bytes

/-!
The cyclic redundancy check of 32 bits that archives keep for each entry: the reflected polynomial
`EDB88320`, all ones at the start, and the complement at the end.
-/

namespace ShaderTools.Archive

/-- One division step of the register. -/
def checksumShift (register : UInt32) : UInt32 :=
  if register &&& 1 = 1 then (register >>> 1) ^^^ 0xEDB88320 else register >>> 1

/-- The register after one byte. -/
def checksumByte (register : UInt32) (b : UInt8) : UInt32 :=
  Nat.repeat checksumShift 8 (register ^^^ b.toUInt32)

def checksum (bytes : Bytes) : UInt32 :=
  bytes.foldl checksumByte 0xFFFFFFFF ^^^ 0xFFFFFFFF

end ShaderTools.Archive
