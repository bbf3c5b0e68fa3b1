import ShaderTools.Archive.Huffman

/-!
Decoding of DEFLATE data. The data is a chain of blocks: stored bytes, or literals and references
back into the output, coded with the fixed codes or with codes that the block brings along. What
follows the last block is ignored.
-/

namespace ShaderTools.Archive.Deflate

open Decoder

/-- The symbol that ends a block. -/
def endSymbol : Nat := 256

/-- The smallest length of each length symbol from 257 on, and how many bits are added to it. -/
def lengthTable : List (Nat × Nat) :=
  [(3, 0), (4, 0), (5, 0), (6, 0), (7, 0), (8, 0), (9, 0), (10, 0), (11, 1), (13, 1), (15, 1),
    (17, 1), (19, 2), (23, 2), (27, 2), (31, 2), (35, 3), (43, 3), (51, 3), (59, 3), (67, 4),
    (83, 4), (99, 4), (115, 4), (131, 5), (163, 5), (195, 5), (227, 5), (258, 0)]

/-- The smallest distance of each distance symbol, and how many bits are added to it. -/
def distanceTable : List (Nat × Nat) :=
  [(1, 0), (2, 0), (3, 0), (4, 0), (5, 1), (7, 1), (9, 2), (13, 2), (17, 3), (25, 3), (33, 4),
    (49, 4), (65, 5), (97, 5), (129, 6), (193, 6), (257, 7), (385, 7), (513, 8), (769, 8),
    (1025, 9), (1537, 9), (2049, 10), (3073, 10), (4097, 11), (6145, 11), (8193, 12),
    (12289, 12), (16385, 13), (24577, 13)]

/-- The order in which a block gives the word lengths of the code for word lengths. -/
def lengthOrder : List Nat := [16, 17, 18, 0, 8, 7, 9, 6, 10, 5, 11, 4, 12, 3, 13, 2, 14, 1, 15]

/-- The fixed code of literals and lengths. -/
def fixedLiterals : Code :=
  .ofLengths (List.replicate 144 8 ++ List.replicate 112 9 ++ List.replicate 24 7
    ++ List.replicate 8 8)

def fixedDistances : Code := .ofLengths (List.replicate 32 5)

/-- The byte that lies `distance` back. Before the output there are zeros. -/
def byteBack (distance : Nat) (s : DecoderState) : UInt8 :=
  if distance ≤ s.output.size then s.output.getD (s.output.size - distance) 0 else 0

/-- Repeats `count` bytes from `distance` back; the copy may run into itself. -/
def copyBack (distance : Nat) : (count : Nat) → Decoder Unit
  | 0 => return
  | count + 1 => do
    modify fun s => s.put (byteBack distance s)
    copyBack distance count

/-- A value of a table of bases with added bits. -/
def based (table : List (Nat × Nat)) (index : Nat) : Decoder Nat :=
  match table[index]? with
  | some (base, bits) => return base + (← number bits)
  | none => throw .corrupt

/-- Decodes literals and references up to the end of the block, of which there are fewer than
`room`. -/
def symbols (literals distances : Code) : (room : Nat) → Decoder Unit
  | 0 => throw .corrupt
  | room + 1 => do
    let symbol ← literals.symbol
    if symbol < 256 then
      emit symbol.toUInt8
      symbols literals distances room
    else if symbol = endSymbol then
      return
    else
      let length ← based lengthTable (symbol - endSymbol - 1)
      let distance ← based distanceTable (← distances.symbol)
      copyBack distance length
      symbols literals distances room

/-- Decodes `count` stored bytes. There has to be room for a byte before it is read. -/
def storedBytes : (count : Nat) → Decoder Unit
  | 0 => return
  | count + 1 => do
    settle
    emit (← number 8).toUInt8
    storedBytes count

/-- Decodes a stored block, whose size is given twice, the second time complemented. -/
def stored : Decoder Unit := do
  align
  let size ← number 16
  let complement ← number 16
  if size + complement = 0xffff then storedBytes size else throw .corrupt

/-- Reads `count` numbers of three bits. -/
def smallNumbers : (count : Nat) → Decoder (List Nat)
  | 0 => return []
  | count + 1 => return (← number 3) :: (← smallNumbers count)

/-- Reads word lengths until there are `total`, in at most `room` steps; `known` holds the last
one first. A symbol above 15 repeats the last length, or a zero. -/
def wordLengths (code : Code) (total : Nat) : (room : Nat) → (known : List Nat) →
    Decoder (List Nat)
  | 0, _ => throw .corrupt
  | room + 1, known => do
    if total < known.length then throw .corrupt
    else if known.length = total then return known.reverse
    else
      let symbol ← code.symbol
      if symbol < 16 then wordLengths code total room (symbol :: known)
      else if symbol = 16 then
        match known with
        | [] => throw .corrupt
        | last :: _ =>
          let count ← number 2
          wordLengths code total room (List.replicate (count + 3) last ++ known)
      else if symbol = 17 then
        let count ← number 3
        wordLengths code total room (List.replicate (count + 3) 0 ++ known)
      else
        let count ← number 7
        wordLengths code total room (List.replicate (count + 11) 0 ++ known)

/-- Reads the code for word lengths, which has to be complete. -/
def lengthCode (count : Nat) : Decoder Code := do
  let given := lengthOrder.zip (← smallNumbers count)
  let code := Code.ofLengths ((List.range 19).map fun n => (given.lookup n).getD 0)
  if code.isComplete then return code else throw .corrupt

/-- Whether a code may be used in a block: it is complete, has no words, or has a single bit for
its only word. No word has to end the block. -/
def isBlockCode (code : Code) : Bool := code.isComplete || code.isEmpty || code.isSingleBit

/-- Reads the two codes that a block brings along. -/
def codes : Decoder (Code × Code) := do
  let literalCount := (← number 5) + 257
  let distanceCount := (← number 5) + 1
  let lengthCount := (← number 4) + 4
  if literalCount > 286 || distanceCount > 30 then throw .corrupt
  let code ← lengthCode lengthCount
  let total := literalCount + distanceCount
  let lengths ← wordLengths code total (total + 1) []
  let literals := Code.ofLengths (lengths.take literalCount)
  let distances := Code.ofLengths (lengths.drop literalCount)
  if isBlockCode literals && isBlockCode distances then return (literals, distances)
  throw .corrupt

/-- Decodes one block of at most `room` symbols, and says whether it is the last one. -/
def block (room : Nat) : Decoder Bool := do
  let last ← number 1
  let kind ← number 2
  if kind = 0 then stored
  else if kind = 1 then symbols fixedLiterals fixedDistances room
  else if kind = 2 then
    let (literals, distances) ← codes
    symbols literals distances room
  else throw .corrupt
  return last = 1

/-- Decodes blocks up to the last one, of which there are fewer than `room`. -/
def blocks (room : Nat) : (count : Nat) → Decoder Unit
  | 0 => throw .corrupt
  | count + 1 => do
    if ← block room then return else blocks room count

/-- The decoder's final state on some data, and why it stopped early, if it did. A block and a
symbol each take a bit at least, so the counts suffice. -/
def run (data : Bytes) : DecoderState × Option Stop :=
  let room := 8 * data.length + 1
  match blocks room room (.start data) with
  | .ok _ s => (s, none)
  | .error stop s => (s, some stop)

/-- Decoded data: the bytes delivered, and why the decoder stopped early, if it did. -/
structure Inflated where
  output : Bytes
  stop : Option Stop

/-- Decodes DEFLATE data. All output before the end of the data is delivered; before a fault, the
output of the steps that have ended. -/
def inflate (data : Bytes) : Inflated :=
  match run data with
  | (s, some .corrupt) => ⟨s.deliveredAtFault, some .corrupt⟩
  | (s, stop) => ⟨s.output.toList, stop⟩

end ShaderTools.Archive.Deflate
