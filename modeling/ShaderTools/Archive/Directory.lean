import ShaderTools.Archive.EndRecord

/-!
The directory of an archive. Its end record is looked for from the end of the bytes backwards, so
that bytes may stand before the first entry and after the end record. The first end record that
leads to a readable directory counts.
-/

namespace ShaderTools.Archive

open Bytes

/-- The entries of the next `count` headers. An entry's own header lies before the directory. -/
def entriesAt (bytes : Bytes) (directory : Directory) :
    (count : Nat) → (position : Nat) → Option (List Entry)
  | 0, _ => some []
  | count + 1, position => do
    let (entry, length) ← Entry.ofHeader directory.shift (bytes.drop position)
    if directory.start ≤ entry.headerStart then none
    else
      let entries ← entriesAt bytes directory count (position + length)
      pure (entry :: entries)

/-- The entries of a directory, if all its headers are in order. -/
def Directory.entries? (directory : Directory) (bytes : Bytes) : Option (List Entry) :=
  if directory.isReadable then entriesAt bytes directory directory.count directory.start else none

/-- The entries of the first end record, of those at the given places, with a readable directory.
What is wrong with a record that is cut short is told only if nothing else is known, and a record
with an unreadable directory clears what is known. -/
def firstDirectory (bytes : Bytes) :
    (positions : List Nat) → (known : Option Archive.Error) → Except Archive.Error (List Entry)
  | [], known => .error (known.getD .endNotFound)
  | position :: earlier, known =>
    match EndRecord.read bytes position with
    | .error found => firstDirectory bytes earlier (known <|> some found)
    | .ok record =>
      match record.directory bytes with
      | .error found => firstDirectory bytes earlier (some found)
      | .ok directory =>
        match directory.entries? bytes with
        | some entries => .ok entries
        | none => firstDirectory bytes earlier none

/-- The entries of an archive, in the order of its directory. -/
def entries (bytes : Bytes) : Except Archive.Error (List Entry) :=
  firstDirectory bytes (occurrences endMark 0 bytes).reverse none

/-- The entry of a name: the last one, where the directory has several. -/
def entryNamed? (name : Text) (entries : List Entry) : Option Entry :=
  (entries.filter (·.name = name)).getLast?

end ShaderTools.Archive
