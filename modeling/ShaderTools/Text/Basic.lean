/-!
A text is a list of characters. This module holds the cuts at either end of a text that the other
modules share, and the words of a text: its maximal runs of characters that are no separators.
-/

namespace ShaderTools

/-- A text, as the list of its characters. -/
abbrev Text := List Char

namespace Text

/-- The text without one leading `mark`, if it starts with one. -/
def withoutFirst (mark : Char) : Text → Text
  | [] => []
  | c :: rest => if c = mark then rest else c :: rest

/-- The text without one trailing `mark`, if it ends in one. -/
def withoutLast (mark : Char) (t : Text) : Text :=
  if t.getLast? = some mark then t.dropLast else t

/-- The text without its longest ending whose characters all satisfy `p`. -/
def dropEndWhile (p : Char → Bool) (t : Text) : Text :=
  (t.reverse.dropWhile p).reverse

/-- The pieces with `c` put in front of the first one; a first piece when there is none. -/
def growFirst (c : Char) : List Text → List Text
  | [] => [[c]]
  | piece :: pieces => (c :: piece) :: pieces

/-- Whether a text starts with a character that is no separator. -/
def startsWord (isSeparator : Char → Bool) : Text → Bool
  | [] => false
  | c :: _ => !isSeparator c

/-- The maximal runs of characters that are no separators, in order. -/
def words (isSeparator : Char → Bool) : Text → List Text
  | [] => []
  | c :: rest =>
    if isSeparator c then words isSeparator rest
    else if startsWord isSeparator rest then growFirst c (words isSeparator rest)
    else [c] :: words isSeparator rest

/-- The pieces of a text between its separators, one more than there are separators. -/
def split (isSeparator : Char → Bool) : Text → List Text
  | [] => [[]]
  | c :: rest =>
    if isSeparator c then [] :: split isSeparator rest else growFirst c (split isSeparator rest)

/-- The text before the first `mark`, and the text behind it if there is one. -/
def cut (mark : Char) : Text → Text × Option Text
  | [] => ([], none)
  | c :: rest =>
    if c = mark then ([], some rest) else ((c :: (cut mark rest).1), (cut mark rest).2)

@[simp] theorem withoutLast_nil (mark : Char) : withoutLast mark [] = [] := by
  simp [withoutLast]

@[simp] theorem withoutLast_concat (mark : Char) (t : Text) :
    withoutLast mark (t ++ [mark]) = t := by
  simp [withoutLast]

@[simp] theorem dropEndWhile_nil (p : Char → Bool) : dropEndWhile p [] = [] := rfl

theorem dropEndWhile_concat (p : Char → Bool) (t : Text) (c : Char) :
    dropEndWhile p (t ++ [c]) = if p c then dropEndWhile p t else t ++ [c] := by
  by_cases h : p c <;> simp [dropEndWhile, h]

@[simp] theorem words_nil (isSeparator : Char → Bool) : words isSeparator [] = [] := rfl

theorem words_cons_of_isSeparator {isSeparator : Char → Bool} {c : Char} (h : isSeparator c)
    (rest : Text) : words isSeparator (c :: rest) = words isSeparator rest := by
  simp [words, h]

theorem words_ne_nil_of_startsWord {isSeparator : Char → Bool} {t : Text}
    (h : startsWord isSeparator t) : words isSeparator t ≠ [] := by
  cases t with
  | nil => simp [startsWord] at h
  | cons c rest =>
    have hc : isSeparator c = false := by simpa [startsWord] using h
    by_cases hr : startsWord isSeparator rest
    · cases hf : words isSeparator rest <;> simp [words, hc, hr, hf, growFirst]
    · simp [words, hc, hr]

end Text

end ShaderTools
