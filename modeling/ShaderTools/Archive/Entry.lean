import ShaderTools.Bytes
import ShaderTools.Text.Basic

/-!
One entry of an archive, as the archive's directory describes it: its name, how its data is kept
and where, and the attributes of the file it was made from.
-/

namespace ShaderTools.Archive

/-- The directory's description of an entry. The header's place counts from the start of the
bytes. -/
structure Entry where
  name : Text
  /-- The bytes that the name was read from. -/
  rawName : Bytes
  comment : Text
  /-- The general flags. -/
  flags : Nat
  /-- Whether an extra field tells of a cipher. -/
  hasCipher : Bool
  method : Nat
  checksum : Nat
  compressedSize : Nat
  size : Nat
  headerStart : Nat
  system : Nat
  attributes : Nat
  deriving DecidableEq, Repr

def Entry.isEncrypted (e : Entry) : Bool := e.flags.testBit 0

/-- The file mode that the attributes give. A Unix system keeps it in the high half; for a DOS
system it follows from the directory bit and the read-only bit. Attributes of zero give none. -/
def Entry.mode? (e : Entry) : Option Nat :=
  if e.attributes = 0 then none
  else if e.system = 3 then some (e.attributes >>> 16)
  else if e.system = 0 then
    let mode := if e.attributes.testBit 4 then 0o775 else 0o664
    some (if e.attributes.testBit 0 then mode &&& 0o555 else mode)
  else none

end ShaderTools.Archive
