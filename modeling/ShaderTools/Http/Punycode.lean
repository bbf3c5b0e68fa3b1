import ShaderTools.Text.Basic

/-!
Punycode: a name outside ASCII in ASCII. The ASCII characters come first, then, behind a hyphen, one
number for each other character, in the order of their codes. A number tells how many steps lie
between two insertions, where the place moves through the name once for each code. Its digits go
from the lowest one up, and a digit below a threshold ends it; the thresholds follow a bias, which
is fitted to the size of the numbers so far.
-/

namespace ShaderTools.Http.Punycode

/-- The digit of a value below 36: a letter, and from 26 on a decimal digit. -/
def digit (value : Nat) : Char :=
  if value < 26 then Char.ofNat (97 + value) else Char.ofNat (22 + value)

def digitValue? (c : Char) : Option Nat :=
  if 'a' ≤ c ∧ c ≤ 'z' then some (c.toNat - 97)
  else if '0' ≤ c ∧ c ≤ '9' then some (c.toNat - 22)
  else none

/-- The threshold of the digit with `index` digits before it. -/
def threshold (bias index : Nat) : Nat := max 1 (min 26 (36 * (index + 1) - bias))

theorem threshold_pos (bias index : Nat) : 1 ≤ threshold bias index := Nat.le_max_left _ _

/-- The bias for a number that was reduced to its size in proportion. -/
def biasOf (size : Nat) : Nat :=
  if 455 < size then 36 + biasOf (size / 35) else 36 * size / (size + 38)

/-- The bias after a number, where the name has `length` characters then. -/
def nextBias (number length : Nat) (isFirst : Bool) : Nat :=
  let size := if isFirst then number / 700 else number / 2
  biasOf (size + size / length)

def digitsOf (bias index number : Nat) : Text :=
  let t := threshold bias index
  if number < t then [digit number]
  else digit (t + (number - t) % (36 - t)) :: digitsOf bias (index + 1) ((number - t) / (36 - t))
termination_by number
decreasing_by
  have h := threshold_pos bias index
  exact Nat.lt_of_le_of_lt (Nat.div_le_self _ _) (by omega)

/-- The first code that is not in ASCII. -/
def firstCode : Nat := 128

/-- The bias of the first number. -/
def firstBias : Nat := 72

/-- What a writer has done: how many steps lie behind the last insertion, the bias, how many
characters are in the name, and the digits. -/
structure Writer where
  steps : Nat
  bias : Nat
  length : Nat
  digits : Text

/-- Moves behind a character of the whole name, and inserts it if it has the code. -/
def Writer.pass (plainLength code : Nat) (w : Writer) (c : Char) : Writer :=
  if c.toNat < code then { w with steps := w.steps + 1 }
  else if c.toNat = code then
    { steps := 0
      bias := nextBias w.steps (w.length + 1) (w.length = plainLength)
      length := w.length + 1
      digits := w.digits ++ digitsOf w.bias 0 w.steps }
  else w

/-- Inserts the characters of the codes from `code` on, given in increasing order. -/
def Writer.passAll (name : Text) (plainLength : Nat) :
    (code : Nat) → (codes : List Nat) → Writer → Writer
  | _, [], w => w
  | code, next :: codes, w =>
    let w := { w with steps := w.steps + (next - code) * (w.length + 1) }
    let w := name.foldl (Writer.pass plainLength next) w
    passAll name plainLength (next + 1) codes { w with steps := w.steps + 1 }

def encode (name : Text) : Text :=
  let plain := name.filter (·.toNat < firstCode)
  let codes := ((name.map Char.toNat).filter (firstCode ≤ ·)).mergeSort.eraseDups
  let start : Writer := ⟨0, firstBias, plain.length, []⟩
  plain ++ (if plain.isEmpty then [] else ['-'])
    ++ (start.passAll name plain.length firstCode codes).digits

/-- Reads a number, of whose digits each counts `weight` times, and adds it to another one. -/
def numberAfter (bias : Nat) : (index weight number : Nat) → Text → Option (Nat × Text)
  | _, _, _, [] => none
  | index, weight, number, c :: rest => do
    let value ← digitValue? c
    let t := threshold bias index
    let number := number + value * weight
    if value < t then some (number, rest)
    else numberAfter bias (index + 1) (weight * (36 - t)) number rest

/-- Inserts the characters that digits tell of into a name, at most `room` of them. -/
def insertAll : (room bias code place : Nat) → (name digits : Text) → Option Text
  | _, _, _, _, name, [] => some name
  | 0, _, _, _, _, _ => none
  | room + 1, bias, code, place, name, digits => do
    let (steps, rest) ← numberAfter bias 0 1 place digits
    let length := name.length + 1
    let code := code + steps / length
    let next := steps % length
    if code.isValidChar then
      insertAll room (nextBias (steps - place) length (place = 0)) code (next + 1)
        (name.insertIdx next (Char.ofNat code)) rest
    else none

/-- The name that a text in ASCII stands for. A hyphen at the start stands behind no characters, so
it would be a digit. -/
def decode? (t : Text) : Option Text :=
  let behind := (t.reverse.takeWhile (· ≠ '-')).reverse
  let plain := (t.take (t.length - behind.length)).dropLast
  let digits := if plain.isEmpty then t else behind
  insertAll digits.length firstBias firstCode 0 plain digits

end ShaderTools.Http.Punycode
