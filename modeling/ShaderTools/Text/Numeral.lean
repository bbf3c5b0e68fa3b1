import ShaderTools.Text.Basic

/-!
Positional numerals. `numeral base n` writes `n` with the fewest digits, `0`-`9` and then `a`-`z`;
`digitsValue?` reads a non-empty run of ASCII decimal digits, and `wordValue?` a signed decimal
numeral whose value fits into a word of 64 bits.
-/

namespace ShaderTools.Text

/-- The digit with the value `d`, for `d` below 36. -/
def digit (d : Nat) : Char :=
  if d < 10 then Char.ofNat (48 + d) else Char.ofNat (87 + d)

/-- The value of a digit written by `digit`. -/
def digitValue? (c : Char) : Option Nat :=
  if '0' ≤ c ∧ c ≤ '9' then some (c.toNat - 48)
  else if 'a' ≤ c ∧ c ≤ 'z' then some (c.toNat - 87)
  else none

/-- The numeral of `n`, of at most `room` digits. -/
def numeralWithin (base : Nat) : (room : Nat) → Nat → Text
  | 0, _ => []
  | room + 1, n =>
    if n < base then [digit n]
    else numeralWithin base room (n / base) ++ [digit (n % base)]

/-- The numeral of `n` in a base between 2 and 36. -/
def numeral (base n : Nat) : Text := numeralWithin base (n + 1) n

/-- The decimal numeral of a natural number. -/
def ofNat (n : Nat) : Text := numeral 10 n

/-- The decimal numeral of an integer, with a leading hyphen if it is negative. -/
def ofInt : Int → Text
  | .ofNat n => ofNat n
  | .negSucc n => '-' :: ofNat (n + 1)

/-- The lowest `count` digits of `n`, the most significant first. -/
def paddedNumeral (base : Nat) : (count : Nat) → Nat → Text
  | 0, _ => []
  | count + 1, n => paddedNumeral base count (n / base) ++ [digit (n % base)]

/-- The value of a run of ASCII decimal digits after digits of the value `high`. -/
def digitsValueFrom (high : Nat) : Text → Option Nat
  | [] => some high
  | c :: rest =>
    if '0' ≤ c ∧ c ≤ '9' then digitsValueFrom (10 * high + (c.toNat - 48)) rest else none

/-- The value of a non-empty run of ASCII decimal digits. -/
def digitsValue? (t : Text) : Option Nat :=
  if t.isEmpty then none else digitsValueFrom 0 t

/-- The least number above every signed word of 64 bits; its opposite is such a word. -/
def wordLimit : Nat := 0x8000000000000000

/-- The value of an optionally signed decimal numeral that fits into such a word. -/
def wordValue? : Text → Option Int
  | '-' :: digits => do
    let n ← digitsValue? digits
    if n ≤ wordLimit then some (-(n : Int)) else none
  | '+' :: digits => do
    let n ← digitsValue? digits
    if n < wordLimit then some (n : Int) else none
  | digits => do
    let n ← digitsValue? digits
    if n < wordLimit then some (n : Int) else none

end ShaderTools.Text
