import ShaderTools.Http.Percent
import ShaderTools.Text.Numeral

/-!
IPv6 addresses: eight groups of 16 bits in hexadecimal. Two colons stand for one or more groups of
zero, and the last two groups may be given by four decimal numbers. An address is shown in lower
case, with two colons for its longest run of zeros.
-/

namespace ShaderTools.Http.Ipv6

/-- The value of a group: one to four hexadecimal digits. -/
def group? (t : Text) : Option Nat :=
  if t.isEmpty ∨ 4 < t.length then none
  else t.foldlM (fun n c => (hexValue? c).map (16 * n + ·)) 0

/-- The value of a decimal number below 256 without needless zeros. -/
def octet? (t : Text) : Option Nat := do
  let n ← Text.digitsValue? t
  if n < 256 ∧ Text.ofNat n = t then some n else none

/-- The two groups of four decimal numbers. -/
def dotted? (t : Text) : Option (List Nat) := do
  match ← (Text.split (· = '.') t).mapM octet? with
  | [a, b, c, d] => some [256 * a + b, 256 * c + d]
  | _ => none

/-- The groups of pieces, of which the last one may be four decimal numbers. -/
def groupsOfPieces? : List Text → Option (List Nat)
  | [] => some []
  | [last] => if '.' ∈ last then dotted? last else (group? last).map ([·])
  | piece :: rest => do return (← group? piece) :: (← groupsOfPieces? rest)

/-- The groups of a text without two colons in a row. -/
def groups? (t : Text) : Option (List Nat) :=
  if t.isEmpty then some [] else groupsOfPieces? (Text.split (· = ':') t)

/-- The text before the first two colons in a row, and the text behind them if there are any. -/
def cutAtGap : Text → Text × Option Text
  | [] => ([], none)
  | ':' :: ':' :: rest => ([], some rest)
  | c :: rest => (c :: (cutAtGap rest).1, (cutAtGap rest).2)

/-- The eight groups of an address. -/
def ofText? (t : Text) : Option (List Nat) := do
  match cutAtGap t with
  | (whole, none) =>
    let groups ← groups? whole
    if groups.length = 8 then some groups else none
  | (before, some behind) =>
    let high ← if '.' ∈ before then none else groups? before
    let low ← groups? behind
    if high.length + low.length < 8 then
      some (high ++ List.replicate (8 - high.length - low.length) 0 ++ low)
    else none

/-- How many zeros a list starts with. -/
def leadingZeros (groups : List Nat) : Nat := (groups.takeWhile (· = 0)).length

/-- The length of the longest run of zeros. -/
def longestRun : List Nat → Nat
  | [] => 0
  | n :: rest => max (leadingZeros (n :: rest)) (longestRun rest)

/-- The groups before the first run of `length` zeros, and those behind it. -/
def cutAtRun (length : Nat) : List Nat → List Nat × List Nat
  | [] => ([], [])
  | n :: rest =>
    if length ≤ leadingZeros (n :: rest) then ([], (n :: rest).drop length)
    else (n :: (cutAtRun length rest).1, (cutAtRun length rest).2)

/-- Groups with colons between them. -/
def groupsText (groups : List Nat) : Text :=
  List.intercalate [':'] (groups.map (Text.numeral 16))

/-- The text of an address. A single zero is no run. -/
def text (groups : List Nat) : Text :=
  let length := longestRun groups
  if length < 2 then groupsText groups
  else
    let (before, behind) := cutAtRun length groups
    groupsText before ++ [':', ':'] ++ groupsText behind

end ShaderTools.Http.Ipv6
