import ShaderTools.Archive.ExtraField
import ShaderTools.Text.CodePage

/-!
The headers of a directory, one for each entry: numbers at fixed places, and behind them the
entry's name, its extra fields and its comment.
-/

namespace ShaderTools.Archive

open Bytes

/-- The bytes that start a directory header. -/
def headerMark : Bytes := [0x50, 0x4b, 0x01, 0x02]

/-- Method number of encrypted data whose real method is in an extra field. -/
def cipherMethod : Nat := 99

/-- Reads the directory header at the start of `data`, and says how long it is. The archive's
first byte lies `shift` bytes after the place that its own offsets count from. -/
def Entry.ofHeader (shift : Nat) (data : Bytes) : Option (Entry × Nat) := do
  if data.length < 46 || slice 0 4 data ≠ headerMark then none
  else
    let flags := number 8 2 data
    let nameLength := number 28 2 data
    let extraLength := number 30 2 data
    let commentLength := number 32 2 data
    let length := 46 + nameLength + extraLength + commentLength
    if data.length < length then none
    else
      let decode (raw : Bytes) : Text :=
        if flags.testBit 11 then Text.Utf8.decodeLossy raw else Text.CodePage.decode raw
      let rawName := slice 46 nameLength data
      let plain : Entry :=
        { name := decode rawName
          rawName
          comment := decode (slice (46 + nameLength + extraLength) commentLength data)
          flags
          hasCipher := false
          method := number 10 2 data
          checksum := number 16 4 data
          compressedSize := number 20 4 data
          size := number 24 4 data
          headerStart := number 42 4 data
          system := number 5 1 data
          attributes := number 38 4 data }
      let entry ← plain.withExtra (slice (46 + nameLength) extraLength data)
      if entry.method = cipherMethod && !entry.hasCipher then none
      else pure ({ entry with headerStart := entry.headerStart + shift }, length)

end ShaderTools.Archive
