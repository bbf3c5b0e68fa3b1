import ShaderTools.Text.Blank
import ShaderTools.Text.Composed.Table

/-!
The composed form of a text. A character with marks is written as one character where there is one
for it, the syllables of Hangul are written as one character, and marks that do not meet stand in
the order of their classes. So texts that differ only in this have one form.
-/

namespace ShaderTools.Text

/-- The combining class of a character. Marks of different classes do not meet; a character of
class zero is no mark, or one that others do not move past. -/
def combiningClass (c : Char) : Nat :=
  if c.toNat < 0x300 then 0
  else ((classTable.find? fun row => inRanges row.2 c).map (·.1)).getD 0

/-- The first syllable of Hangul. -/
def firstSyllable : Nat := 0xac00

/-- The first letter that can begin a syllable. -/
def firstLead : Nat := 0x1100

/-- The first letter that can be the vowel of a syllable. -/
def firstVowel : Nat := 0x1161

/-- The code before the letters that can end a syllable; it stands for none of them. -/
def noTail : Nat := 0x11a7

/-- How many letters can begin a syllable. -/
def leadCount : Nat := 19

/-- How many letters can be the vowel of a syllable. -/
def vowelCount : Nat := 21

/-- In how many ways a syllable can end, one of them without a letter. -/
def tailCount : Nat := 28

/-- The number of a syllable of Hangul. -/
def syllable? (c : Char) : Option Nat :=
  if firstSyllable ≤ c.toNat ∧ c.toNat < firstSyllable + leadCount * vowelCount * tailCount then
    some (c.toNat - firstSyllable)
  else none

/-- The two parts of a syllable: its first letter and its vowel, or the syllable without its last
letter and that letter. -/
def splitSyllable (number : Nat) : Char × Char :=
  if number % tailCount = 0 then
    (Char.ofNat (firstLead + number / (vowelCount * tailCount)),
      Char.ofNat (firstVowel + number / tailCount % vowelCount))
  else
    (Char.ofNat (firstSyllable + number / tailCount * tailCount),
      Char.ofNat (noTail + number % tailCount))

/-- The syllable of two parts. -/
def joinSyllable? (a b : Char) : Option Char :=
  let lead := a.toNat - firstLead
  let vowel := b.toNat - firstVowel
  if firstLead ≤ a.toNat ∧ lead < leadCount ∧ firstVowel ≤ b.toNat ∧ vowel < vowelCount then
    some (Char.ofNat (firstSyllable + (lead * vowelCount + vowel) * tailCount))
  else
    match syllable? a with
    | some number =>
      if number % tailCount = 0 ∧ noTail < b.toNat ∧ b.toNat < noTail + tailCount then
        some (Char.ofNat (a.toNat + (b.toNat - noTail)))
      else none
    | none => none

/-- The two characters that one stands for. -/
def split? (c : Char) : Option (Char × Char) :=
  if c.toNat < 0xc0 then none
  else
    match syllable? c with
    | some number => some (splitSyllable number)
    | none =>
      pairTable.findSome? fun (second, row) =>
        (row.find? (·.2 = c.toNat)).map fun (first, _) => (Char.ofNat first, Char.ofNat second)

/-- The character that stands for two. -/
def join? (a b : Char) : Option Char :=
  if b.toNat < 0x300 then none
  else
    match joinSyllable? a b with
    | some c => some c
    | none =>
      (pairTable.find? (·.1 = b.toNat)).bind fun (_, row) =>
        (row.find? (·.1 = a.toNat)).map fun (_, whole) => Char.ofNat whole

/-- How often a character can be split at most. -/
def splitLimit : Nat := 4

/-- A character taken apart, by at most `limit` splits. -/
def apart : (limit : Nat) → Char → Text
  | 0, c => [c]
  | limit + 1, c =>
    match split? c with
    | some (first, second) => apart limit first ++ [second]
    | none => [c]

/-- Puts a character behind a text, whose last character comes first, and moves it past the marks
of higher classes. -/
def settle (c : Char) : Text → Text
  | [] => [c]
  | d :: before =>
    if 0 < combiningClass c ∧ combiningClass c < combiningClass d then d :: settle c before
    else c :: d :: before

/-- A text with all characters taken apart and their marks in order. -/
def decomposed (t : Text) : Text :=
  ((t.flatMap (apart splitLimit)).foldl (fun before c => settle c before) []).reverse

/-- A text that is being composed. All parts have their last character first. -/
structure Composing where
  /-- What nothing can join any more. -/
  done : Text
  /-- The character that the next ones may join. -/
  base? : Option Char
  /-- The marks behind it that have not joined it. -/
  marks : Text

namespace Composing

/-- The text composed so far. -/
def whole (s : Composing) : Text := s.marks ++ s.base?.toList ++ s.done

/-- Adds a character. A mark of its class or a higher one before it keeps it from joining. -/
def add (s : Composing) (c : Char) : Composing :=
  let isFree := s.marks.head?.all fun m => combiningClass m < combiningClass c
  match if isFree then s.base?.bind (join? · c) else none with
  | some both => { s with base? := some both }
  | none =>
    if combiningClass c = 0 then ⟨s.whole, some c, []⟩ else { s with marks := c :: s.marks }

end Composing

def composed (t : Text) : Text :=
  ((decomposed t).foldl Composing.add ⟨[], none, []⟩).whole.reverse

end ShaderTools.Text
