import ShaderTools.Archive.Deflate
import ShaderTools.Archive.Directory

/-!
The data of an entry. The data starts behind the entry's own header and has the size that the
directory gives, cut where the archive ends; the size it should have decoded is not looked at. Data
that is stored or deflated is decoded here; decoders of other compressions are left open. The
checksum is compared when all of the data has been delivered.
-/

namespace ShaderTools.Archive

open Bytes

/-- What is wrong with the data of an entry. -/
inductive DataFault where
  /-- The decoded bytes do not have the checksum of the directory. -/
  | checksum
  /-- The compressed data is no DEFLATE stream. -/
  | corrupt
  /-- The compressed data ends inside a block. -/
  | incomplete
  /-- A decoder of another compression gives up, with its own words. -/
  | undecodable (words : Text)
  deriving DecidableEq, Repr

def DataFault.message : DataFault → Text
  | checksum => "Invalid checksum".toList
  | corrupt => "corrupt deflate stream".toList
  | incomplete => "incomplete deflate stream".toList
  | undecodable words => words

/-- The bytes delivered for an entry, and the fault that ended the delivery, if one did. -/
structure Payload where
  bytes : Bytes
  fault : Option DataFault
  deriving DecidableEq, Repr

/-- A compression other than DEFLATE. -/
inductive Codec where
  | deflate64
  | bzip2
  | lzma
  | zstandard
  | xz
  deriving DecidableEq, Repr

/-- What a decoder delivers of some data, and in what words it gives up, if it does. -/
structure Decoded where
  bytes : Bytes
  fault? : Option Text
  deriving DecidableEq, Repr

/-- The decoders of the other compressions. A decoder is given the data and the description of the
entry, as there are compressions that leave it to that to tell where the data ends. -/
class Decoders where
  decode : Codec → Entry → Bytes → Decoded

/-- Decoders that do not decode anything. -/
@[reducible] def Decoders.absent : Decoders := ⟨fun _ _ _ => ⟨[], some "no such decoder".toList⟩⟩

/-- How the data of an entry is compressed. -/
inductive Method where
  | stored
  | deflated
  | coded (codec : Codec)
  deriving DecidableEq, Repr

def Method.ofNumber? (n : Nat) : Option Method :=
  if n = 0 then some .stored
  else if n = 8 then some .deflated
  else if n = 9 then some (.coded .deflate64)
  else if n = 12 then some (.coded .bzip2)
  else if n = 14 then some (.coded .lzma)
  else if n = 93 then some (.coded .zstandard)
  else if n = 95 then some (.coded .xz)
  else none

/-- Whether an entry with the number of a method may have been encrypted, so that it is the password
that is missing. -/
def mayBeEncrypted (number : Nat) : Bool :=
  (Method.ofNumber? number).isSome || number = cipherMethod

/-- The payload of bytes that were delivered to the end. -/
def Payload.checked (expected : Nat) (bytes : Bytes) : Payload :=
  ⟨bytes, if (checksum bytes).toNat = expected then none else some .checksum⟩

def Payload.ofData [Decoders] (method : Method) (e : Entry) (data : Bytes) : Payload :=
  match method with
  | .stored => .checked e.checksum data
  | .deflated =>
    match Deflate.inflate data with
    | ⟨output, none⟩ => .checked e.checksum output
    | ⟨output, some .corrupt⟩ => ⟨output, some .corrupt⟩
    | ⟨output, some .exhausted⟩ => ⟨output, some .incomplete⟩
  | .coded codec =>
    match Decoders.decode codec e data with
    | ⟨output, none⟩ => .checked e.checksum output
    | ⟨output, some words⟩ => ⟨output, some (.undecodable words)⟩

/-- The payload of an entry. There is no password for one that is encrypted. -/
def Entry.payload [Decoders] (bytes : Bytes) (e : Entry) : Except Archive.Error Payload :=
  if e.isEncrypted then .error .encrypted
  else
    let header := bytes.drop e.headerStart
    if header.length < 30 then .error .cutShort
    else if slice 0 4 header ≠ [0x50, 0x4b, 0x03, 0x04] then .error .headerNotFound
    else if e.hasCipher ∧ mayBeEncrypted e.method then .error .wrongPassword
    else
      match Method.ofNumber? e.method with
      | none => .error .unknownMethod
      | some method =>
        let dataStart := 30 + number 26 2 header + number 28 2 header
        .ok (.ofData method e (slice dataStart e.compressedSize header))

end ShaderTools.Archive
