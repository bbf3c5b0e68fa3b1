import ShaderTools.Archive.Checksum
import ShaderTools.Archive.Entry
import ShaderTools.Text.Utf8

/-!
The extra fields of an entry: a number, a length, and what the field says. Some of them change the
entry's description. Bytes that end inside a field end the reading there, and what was read before
counts; a field that contradicts itself makes the whole description worthless.
-/

namespace ShaderTools.Archive

/-- Why an extra field is not read to its end. -/
inductive ExtraFault where
  | cutShort
  | invalid
  deriving DecidableEq, Repr

/-- The extra bytes still to be read, and the entry as the fields so far describe it. -/
structure ExtraState where
  rest : Bytes
  entry : Entry

abbrev ExtraReader := EStateM ExtraFault ExtraState

namespace ExtraReader

/-- Reads `count` bytes. -/
def bytes (count : Nat) : ExtraReader Bytes := fun s =>
  if s.rest.length < count then .error .cutShort s
  else .ok (s.rest.take count) { s with rest := s.rest.drop count }

def number (count : Nat) : ExtraReader Nat := return Bytes.littleEndian (← bytes count)

/-- Goes on only if a condition holds. -/
def require (condition : Bool) : ExtraReader Unit :=
  if condition then pure () else throw .invalid

def describe (change : Entry → Entry) : ExtraReader Unit :=
  modify fun s => { s with entry := change s.entry }

/-- The description of the entry so far. -/
def described : ExtraReader Entry := return (← get).entry

/-- A size that does not fit into 32 bits is written as this number and given elsewhere. -/
def sizeElsewhere : Nat := 0xffffffff

/-- Reads a wide size, if the field `has` it, and says how many bytes that took. -/
def wideSize (has : Bool) (change : Nat → Entry → Entry) : ExtraReader Nat := do
  if has then
    describe (change (← number 8))
    return 8
  else return 0

/-- Reads a field of wide sizes: those that are given elsewhere, or all if there is room. -/
def wideSizes (length : Nat) : ExtraReader Unit := do
  let e ← described
  let has (value : Nat) : Bool := 24 ≤ length || value = sizeElsewhere
  let first ← wideSize (has e.size) fun size e => { e with size }
  let second ← wideSize (has e.compressedSize) fun compressedSize e => { e with compressedSize }
  let third ← wideSize (has e.headerStart) fun headerStart e => { e with headerStart }
  let used := first + second + third
  require (used ≤ length)
  discard (bytes (length - used))

/-- Reads a field of three time stamps of eight bytes. -/
def longTimeStamps (length : Nat) : ExtraReader Unit := do
  require (length = 32)
  discard (number 4)
  require ((← number 2) = 1)
  require ((← number 2) = 24)
  discard (bytes 24)

/-- Reads a field of up to three time stamps of four bytes, which its flags name. A field of one
may have the flags of another field. -/
def timeStamps (length : Nat) : ExtraReader Unit := do
  let flags ← number 1
  let count := ((List.range 8).filter flags.testBit).length
  require (length = 5 || length = 1 + 4 * count)
  require (flags < 8)
  discard (bytes (length - 1))

/-- Reads a field with a text in UTF-8 that stands for other bytes, whose checksum it holds. -/
def replacement (length : Nat) (replaced : Bytes) : ExtraReader (Bytes × Text) := do
  discard (number 1)
  let expected ← number 4
  require (5 ≤ length)
  let content ← bytes (length - 5)
  require ((checksum replaced).toNat = expected)
  match Text.Utf8.decode? content with
  | some text => return (content, text)
  | none => throw .invalid

/-- Reads a field with the comment of the entry. -/
def unicodeComment (length : Nat) : ExtraReader Unit := do
  let (_, comment) ← replacement length (Text.Utf8.encode (← described).comment)
  describe fun e => { e with comment }

/-- Reads a field with the name of the entry. -/
def unicodeName (length : Nat) : ExtraReader Unit := do
  let (rawName, name) ← replacement length (← described).rawName
  describe fun e => { e with rawName, name }

/-- Reads a field that tells of a cipher, of one of two versions and three strengths, and of the
method by which the data was compressed before. -/
def cipher (length : Nat) : ExtraReader Unit := do
  require (length = 7)
  let version ← number 2
  let vendor ← number 2
  let strength ← number 1
  let method ← number 2
  require (vendor = 0x4541 && (version = 1 || version = 2) && (1 ≤ strength && strength ≤ 3))
  describe fun e => { e with method, hasCipher := true }

/-- Reads one field. Fields with other numbers say nothing about the entry. -/
def field : ExtraReader Unit := do
  let kind ← number 2
  let length ← number 2
  if kind = 0x0001 then wideSizes length
  else if kind = 0x000a then longTimeStamps length
  else if kind = 0x5455 then timeStamps length
  else if kind = 0x6375 then unicodeComment length
  else if kind = 0x7075 then unicodeName length
  else if kind = 0x9901 then cipher length
  else discard (bytes length)

/-- Reads fields to the end of the bytes, at most `room` of them. -/
def fields : (room : Nat) → ExtraReader Unit
  | 0 => return
  | room + 1 => do
    if (← get).rest.isEmpty then return
    else
      field
      fields room

end ExtraReader

/-- The entry as its extra fields describe it, unless one of them is invalid. A field takes a byte
at least. -/
def Entry.withExtra (e : Entry) (extra : Bytes) : Option Entry :=
  match ExtraReader.fields extra.length ⟨extra, e⟩ with
  | .ok _ s => some s.entry
  | .error .cutShort s => some s.entry
  | .error .invalid _ => none

end ShaderTools.Archive
