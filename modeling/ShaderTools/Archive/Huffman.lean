import ShaderTools.Archive.Bits

/-!
Canonical codes of at most 15 bits. A code is given by the length of each symbol's word; words of
one length are consecutive numbers in the order of their symbols, and shorter words come first.
-/

namespace ShaderTools.Archive

/-- A canonical code: how many words have 1, 2, … 15 bits, and the symbols in the order of their
words. -/
structure Code where
  counts : List Nat
  symbols : List Nat

namespace Code

/-- The symbols whose words have `length` bits, in increasing order. -/
def symbolsOfLength (lengths : List Nat) (length : Nat) : List Nat :=
  (lengths.zipIdx.filter (·.1 = length)).map (·.2)

/-- The code whose symbol `i` has a word of `lengths[i]` bits, and none if that is zero. -/
def ofLengths (lengths : List Nat) : Code :=
  let groups := (List.range 15).map fun n => symbolsOfLength lengths (n + 1)
  ⟨groups.map List.length, groups.flatten⟩

/-- Whether a code has no words. -/
def isEmpty (code : Code) : Bool := code.symbols.isEmpty

/-- Whether every stream of bits starts with exactly one word. -/
def isComplete (code : Code) : Bool :=
  code.counts.foldl (fun total count => 2 * (total + count)) 0 = 0x10000

/-- Whether the only word of a code is a single bit. -/
def isSingleBit (code : Code) : Bool := code.symbols.length = 1 && code.counts.head? = some 1

/-- Reads a word. `offset` counts the words of the present length that lie before the bits read so
far. -/
def word : (counts symbols : List Nat) → (offset : Nat) → Decoder Nat
  | [], _, _ => throw .corrupt
  | _, [], _ => throw .corrupt
  | count :: counts, symbols, offset => do
    let offset := 2 * offset + (← Decoder.bit).toNat
    match symbols[offset]? with
    | some symbol =>
      if offset < count then return symbol
      else word counts (symbols.drop count) (offset - count)
    | none => word counts (symbols.drop count) (offset - count)

/-- Reads one symbol. In a code without words, a bit is read before that shows. -/
def symbol (code : Code) : Decoder Nat := do
  if code.isEmpty then
    discard Decoder.bit
    throw .corrupt
  else word code.counts code.symbols 0

end Code

end ShaderTools.Archive
