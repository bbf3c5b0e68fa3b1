import ShaderTools.Text.Basic

/-!
How alike two texts are, by the measure of Jaro: characters match that are equal and not further
apart than half the longer text, and matches that come in another order count less. The measure is
compared with seven tenths in whole numbers.
-/

namespace ShaderTools.Text

/-- The places of the first text that match, each with its character, and the places of the second
text that are taken by them. -/
def matchFrom (range : Nat) (b : Text) (taken : List Nat) (i : Nat) : Text → Text × List Nat
  | [] => ([], taken)
  | c :: rest =>
    let place? := (List.range (min b.length (i + range + 1))).find? fun j =>
      i - range ≤ j && b[j]? = some c && j ∉ taken
    match place? with
    | none => matchFrom range b taken (i + 1) rest
    | some j =>
      let (matched, taken) := matchFrom range b (j :: taken) (i + 1) rest
      (c :: matched, taken)

/-- The similarity of two texts as a fraction: numerator and denominator. -/
def similarity (a b : Text) : Nat × Nat :=
  let range := max a.length b.length / 2 - 1
  let (matched, taken) := matchFrom range b [] 0 a
  let inOrder := (List.range b.length).filterMap fun j => if j ∈ taken then b[j]? else none
  let m := matched.length
  let moved := ((matched.zip inOrder).filter fun pair => pair.1 ≠ pair.2).length / 2
  let k := a.length
  let n := b.length
  if m = 0 then (0, 1) else (m * m * n + m * m * k + (m - moved) * k * n, 3 * k * n * m)

/-- Whether two texts are so alike that one may have been meant by the other. -/
def isSimilar (a b : Text) : Bool :=
  7 * (similarity a b).2 < 10 * (similarity a b).1

/-- The texts that are similar to one, the most similar last. -/
def similarTo (t : Text) (candidates : List Text) : List Text :=
  (candidates.filter (isSimilar t)).mergeSort fun a b =>
    (similarity t a).1 * (similarity t b).2 ≤ (similarity t b).1 * (similarity t a).2

end ShaderTools.Text
