import ShaderTools.Bytes

/-!
Bytes as a stream of bits, the lowest bit of each byte first, and a decoder on such a stream. The
decoder works in steps: it is handed a window of bytes at a time, and fills a ring with its output.
A step ends, and its output is delivered, when the decoder needs a bit that was not handed in, or
when it has come to the end of the ring with at least a window of output.
-/

namespace ShaderTools.Archive

abbrev Bits := List Bool

/-- The bits of a byte, lowest first. -/
def byteBits (b : UInt8) : Bits := (List.range 8).map b.toNat.testBit

def bitsOf (bytes : Bytes) : Bits := bytes.flatMap byteBits

@[simp] theorem length_byteBits (b : UInt8) : (byteBits b).length = 8 := by
  simp [byteBits]

@[simp] theorem bitsOf_append (a b : Bytes) : bitsOf (a ++ b) = bitsOf a ++ bitsOf b := by
  simp [bitsOf]

theorem length_bitsOf (bytes : Bytes) : (bitsOf bytes).length = 8 * bytes.length := by
  induction bytes with
  | nil => rfl
  | cons b rest ih =>
    simp only [bitsOf, List.flatMap_cons, List.length_append, length_byteBits,
      List.length_cons] at ih ⊢
    omega

/-- How many bytes are handed in at a time, and how many are taken out. -/
def window : Nat := 8192

/-- How many bytes of output the ring holds. -/
def ringSize : Nat := 32768

/-- Why a decoder stops before the end of its data: the bits run out, or no stream has them. -/
inductive Stop where
  | exhausted
  | corrupt
  deriving DecidableEq, Repr

/-- Where a decoder stands. -/
structure DecoderState where
  /-- The bits still to be read. -/
  bits : Bits
  /-- How many bits have been read. -/
  taken : Nat
  /-- How many bytes there are. -/
  size : Nat
  /-- How many bytes have been handed in. -/
  fed : Nat
  output : Array UInt8
  /-- How many bytes of the output were put out by steps that have ended. -/
  delivered : Nat
  /-- How much output there is when the decoder comes to the end of the ring. -/
  ringEnd : Nat

namespace DecoderState

/-- The state before some bytes are read. -/
def start (bytes : Bytes) : DecoderState :=
  ⟨bitsOf bytes, 0, bytes.length, min window bytes.length, #[], 0, ringSize⟩

/-- How many bytes have been begun. -/
def used (s : DecoderState) : Nat := (s.taken + 7) / 8

/-- Whether a bit was read that had not been handed in. -/
def isStarved (s : DecoderState) : Bool := s.fed < s.used

/-- The state at the start of a step before which `fed` bytes, or all, have been handed in. -/
def nextStep (fed : Nat) (s : DecoderState) : DecoderState :=
  { s with
    fed := min fed s.size
    delivered := s.output.size
    ringEnd := (s.output.size / ringSize + 1) * ringSize }

/-- The state with room for a byte of output. At the end of the ring the step goes on if it has put
out less than a window and has bytes left; the next step is handed a new window if there is nothing
left of the last one. -/
def settle (s : DecoderState) : DecoderState :=
  if s.isStarved then s.nextStep ((s.used + window - 1) / window * window)
  else if s.output.size < s.ringEnd then s
  else if s.ringEnd < s.delivered + window && s.used < s.fed then
    { s with ringEnd := s.ringEnd + ringSize }
  else s.nextStep (if s.used < s.fed then s.fed else s.fed + window)

/-- The state with one more byte of output. -/
def put (b : UInt8) (s : DecoderState) : DecoderState :=
  let s := s.settle
  { s with output := s.output.push b }

/-- The output that is delivered if the decoder finds a fault now. -/
def deliveredAtFault (s : DecoderState) : Bytes :=
  s.output.toList.take (if s.isStarved then s.output.size else s.delivered)

end DecoderState

/-- A reader of bits that puts out bytes. -/
abbrev Decoder := EStateM Stop DecoderState

namespace Decoder

/-- Reads one bit. -/
def bit : Decoder Bool := fun s =>
  match s.bits with
  | [] => .error .exhausted s
  | b :: rest => .ok b { s with bits := rest, taken := s.taken + 1 }

/-- Reads a number of `count` bits, lowest first. -/
def number : (count : Nat) → Decoder Nat
  | 0 => return 0
  | count + 1 => return (← bit).toNat + 2 * (← number count)

/-- Makes room for a byte of output. -/
def settle : Decoder Unit := modify DecoderState.settle

/-- Puts out one byte. -/
def emit (b : UInt8) : Decoder Unit := modify (DecoderState.put b)

/-- Skips the bits that are left of the byte being read. -/
def align : Decoder Unit := do discard (number (8 * (← get).used - (← get).taken))

end Decoder

end ShaderTools.Archive
