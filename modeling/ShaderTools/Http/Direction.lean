import ShaderTools.Text.Mark

/-!
The directions of writing in names. Where a name holds a character that runs from right to left,
each of its labels has to show by its first character how it runs, and to keep to it, so that its
characters are read in their order.
-/

namespace ShaderTools.Http

/-- How a character runs. -/
inductive Direction where
  | leftToRight
  | rightToLeft
  /-- A digit that runs with others from left to right amid letters from right to left. -/
  | arabicNumber
  | europeanNumber
  /-- A mark, which runs as the character before it. -/
  | mark
  /-- A sign, which runs as the characters around it. -/
  | neutral
  deriving DecidableEq, Repr

namespace Direction

/-- The nonspacing marks that run from left to right, as closed ranges. -/
def steadyMarkRanges : List (Nat × Nat) := [
    (0xcbf, 0xcbf), (0xcc6, 0xcc6), (0x11a07, 0x11a08), (0x11c3f, 0x11c3f)]

/-- The digits of the kinds that Arabic uses, as closed ranges. -/
def arabicNumberRanges : List (Nat × Nat) := [
    (0x660, 0x669), (0x66b, 0x66c), (0x10d30, 0x10d49), (0x10e60, 0x10e7e)]

/-- The digits of the kinds that European languages and Persian use, as closed ranges. -/
def europeanNumberRanges : List (Nat × Nat) := [
    (0x30, 0x39), (0x6f0, 0x6f9), (0x102e1, 0x102fb)]

/-- The closed ranges in which all that is no mark and no number is a sign. -/
def neutralRanges : List (Nat × Nat) := [
    (0x21, 0x60), (0x7b, 0xd7), (0xf7, 0xf7), (0x2b9, 0x2ba), (0x2c2, 0x2cf), (0x2d2, 0x2ed),
    (0x2ef, 0x2ff), (0x375, 0x375), (0x3f6, 0x3f6), (0x58a, 0x58f), (0x606, 0x607),
    (0x609, 0x60a), (0x60c, 0x60c), (0x60e, 0x60f), (0x66a, 0x66a), (0x6de, 0x6de),
    (0x6e9, 0x6e9), (0x7f6, 0x7f9), (0x9f2, 0x9f3), (0x9fb, 0x9fb), (0xaf1, 0xaf1),
    (0xbf3, 0xbfa), (0xc78, 0xc7e), (0xe3f, 0xe3f), (0xf3a, 0xf3d), (0x1390, 0x1399),
    (0x1400, 0x1400), (0x169b, 0x169c), (0x17db, 0x17db), (0x17f0, 0x180a), (0x1940, 0x1945),
    (0x19de, 0x19ff), (0x200c, 0x214d), (0x218a, 0x2335), (0x237b, 0x2394), (0x2396, 0x26ab),
    (0x26ad, 0x27ff), (0x2900, 0x2bff), (0x2ce5, 0x2cea), (0x2cf9, 0x2cff), (0x2e00, 0x3004),
    (0x3008, 0x3020), (0x3030, 0x3030), (0x3037, 0x3037), (0x303d, 0x303f), (0x30a0, 0x30a0),
    (0x30fb, 0x30fb), (0x31c0, 0x31e5), (0x4dc0, 0x4dff), (0xa490, 0xa4c6), (0xa60d, 0xa60f),
    (0xa673, 0xa67f), (0xa700, 0xa721), (0xa788, 0xa788), (0xa828, 0xa82b), (0xa838, 0xa839),
    (0xa874, 0xa877), (0xab6a, 0xab6b), (0xfbc3, 0xfe46), (0x10101, 0x10101), (0x10140, 0x1018c),
    (0x10190, 0x101a0), (0x1091f, 0x1091f), (0x10b39, 0x10b3f), (0x10d6e, 0x10d6e),
    (0x10ed0, 0x10ed8), (0x11052, 0x11065), (0x11660, 0x1166c), (0x11fd5, 0x11ff1),
    (0x16fe2, 0x16fe2), (0x1cc00, 0x1cef0), (0x1d1e9, 0x1d245), (0x1d300, 0x1d356),
    (0x1e2ff, 0x1e2ff), (0x1eef0, 0x1f12f), (0x1f16d, 0x1f16f), (0x1f1ad, 0x1f1ad),
    (0x1f260, 0x1fbfa)]

/-- The closed ranges in which all letters run from right to left. -/
def rightToLeftRanges : List (Nat × Nat) := [
    (0x5be, 0x8c9), (0xfbb2, 0xfe73), (0x10800, 0x10ff6), (0x1e800, 0x1ed3d)]

/-- How a character runs that may stand in a name. -/
def ofChar (c : Char) : Direction :=
  if Text.isNonspacing c && !Text.inRanges steadyMarkRanges c then mark
  else if Text.inRanges arabicNumberRanges c then arabicNumber
  else if Text.inRanges europeanNumberRanges c then europeanNumber
  else if Text.inRanges neutralRanges c then neutral
  else if Text.inRanges rightToLeftRanges c then rightToLeft
  else leftToRight

/-- Whether the characters of a label keep to the direction of the first one. The marks at the end
run as what stands before them. -/
def isKept (directions : List Direction) : Bool :=
  let last? := (directions.reverse.dropWhile (· = mark)).head?
  match directions with
  | [] => true
  | leftToRight :: rest =>
    rest.all (· ∉ [rightToLeft, arabicNumber])
      && last?.all (· ∈ [leftToRight, europeanNumber])
  | rightToLeft :: rest =>
    leftToRight ∉ rest && !(arabicNumber ∈ rest && europeanNumber ∈ rest)
      && last?.all (· ∈ [rightToLeft, arabicNumber, europeanNumber])
  | _ => false

/-- Whether the labels of a name can be read in their order. -/
def areClear (labels : List Text) : Bool :=
  let directions := labels.map (·.map ofChar)
  !directions.flatten.any (· ∈ [rightToLeft, arabicNumber]) || directions.all isKept

end Direction

end ShaderTools.Http
