import ShaderTools.Archive.Error
import ShaderTools.Archive.Header

/-!
The end record of an archive, which tells of its directory. Numbers that do not fit into it are in
a wide end record, to which a locator directly before the end record leads. Places count from where
the archive starts, which may lie behind other bytes: how far it is shifted shows where the
directory or the wide end record is found.
-/

namespace ShaderTools.Archive

open Bytes

/-- The bytes that start an end record. -/
def endMark : Bytes := [0x50, 0x4b, 0x05, 0x06]

/-- The bytes that start a wide end record. -/
def wideEndMark : Bytes := [0x50, 0x4b, 0x06, 0x06]

def locatorMark : Bytes := [0x50, 0x4b, 0x06, 0x07]

/-- Where a directory starts, how many headers it has, and how far the archive is shifted. -/
structure Directory where
  start : Nat
  count : Nat
  shift : Nat
  /-- Whether the record that tells of it agrees with itself and places it on one disk. -/
  isReadable : Bool

structure EndRecord where
  position : Nat
  disk : Nat
  directoryDisk : Nat
  /-- How many entries are on this disk. -/
  count : Nat
  /-- How many entries there are. -/
  total : Nat
  directoryStart : Nat

def EndRecord.read (bytes : Bytes) (position : Nat) : Except Archive.Error EndRecord :=
  let record := bytes.drop position
  if record.length < 22 then .error .cutShort
  else if record.length < 22 + number 20 2 record then .error .commentCutShort
  else
    .ok
      { position
        disk := number 4 2 record
        directoryDisk := number 6 2 record
        count := number 8 2 record
        total := number 10 2 record
        directoryStart := number 16 4 record }

/-- Whether the numbers of an end record may be in a wide one. -/
def EndRecord.mayBeWide (r : EndRecord) : Bool := r.total = 0xffff || r.directoryStart = 0xffffffff

/-- The directory that an end record tells of by itself. The first directory header at or after
the place the record gives decides how far the archive is shifted; an archive without entries needs
none. -/
def EndRecord.ownDirectory (r : EndRecord) (bytes : Bytes) : Except Archive.Error Directory :=
  let directory (shift : Nat) : Directory :=
    { start := r.directoryStart + shift
      count := r.count
      shift
      isReadable := r.disk = r.directoryDisk }
  if r.total = 0 then .ok (directory (r.position - r.directoryStart))
  else if r.position ≤ r.directoryStart then .error .directoryAfterEnd
  else
    let between := slice r.directoryStart (r.position - r.directoryStart) bytes
    match occurrences headerMark 0 between with
    | [] => .error .directoryNotFound
    | shift :: _ => .ok (directory shift)

/-- A locator of a wide end record. -/
structure Locator where
  position : Nat
  directoryDisk : Nat
  wideEndStart : Nat
  diskCount : Nat

/-- The locator directly before an end record, if there is one. -/
def EndRecord.locator? (r : EndRecord) (bytes : Bytes) : Option Locator :=
  let position := r.position - 20
  let data := slice position 20 bytes
  if 20 ≤ r.position ∧ slice 0 4 data = locatorMark then
    some
      { position
        directoryDisk := number 4 4 data
        wideEndStart := number 8 8 data
        diskCount := number 16 4 data }
  else none

/-- The directory that the wide end record at a position tells of. The record reaches up to the
locator, and each entry takes 46 bytes before it at least. -/
def Locator.directoryAt (l : Locator) (bytes : Bytes) (position : Nat) :
    Except Archive.Error Directory :=
  let record := bytes.drop position
  let length := number 4 8 record + 12
  let total := number 32 8 record
  let directoryStart := number 48 8 record
  let shift := position - l.wideEndStart
  if record.length < 56 then .error .cutShort
  else if length < 56 then .error .wideEndTooShort
  else if l.position - position < length then .error .wideEndTooLong
  else if number 20 4 record ≠ l.directoryDisk then .error .wideEndOnOtherDisk
  else if length ≠ l.position - position then .error .wideEndBeforeGap
  else if position < 46 * total + directoryStart then .error .tooManyEntries
  else
    .ok
      { start := directoryStart + shift
        count := total
        shift
        isReadable :=
          number 24 8 record ≤ total && number 14 2 record ≤ number 12 2 record
            && number 16 4 record = number 20 4 record }

/-- The directory of the first wide end record, of those at the given places, that is in order. If
none is, the last one counts. -/
def Locator.firstDirectory (l : Locator) (bytes : Bytes) :
    (positions : List Nat) → (known : Archive.Error) → Except Archive.Error Directory
  | [], known => .error known
  | position :: later, _ =>
    match l.directoryAt bytes position with
    | .ok directory => .ok directory
    | .error found => l.firstDirectory bytes later found

/-- The directory of the wide end record that a locator leads to. -/
def Locator.directory (l : Locator) (bytes : Bytes) : Except Archive.Error Directory :=
  if l.position ≤ l.wideEndStart then .error .wideEndAfterLocator
  else if 1 < l.diskCount then .error .severalDisks
  else
    let between := slice l.wideEndStart (l.position - l.wideEndStart) bytes
    l.firstDirectory bytes (occurrences wideEndMark l.wideEndStart between) .wideEndNotFound

def EndRecord.directory (r : EndRecord) (bytes : Bytes) : Except Archive.Error Directory :=
  match if r.mayBeWide then r.locator? bytes else none with
  | some locator => locator.directory bytes
  | none => r.ownDirectory bytes

end ShaderTools.Archive
