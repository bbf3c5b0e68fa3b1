import Mathlib.Data.List.Infix
import Mathlib.Data.List.TakeWhile
import ShaderTools.Terminal.Status

/-!
Texts without their colour sequences. A sequence starts with the escape character and a bracket and
ends with an `m`; between them stand digits and semicolons, or nothing. Where a text does not end
inside of what may be a sequence, erasing goes through it by itself, so a message is the same in
every styling once the sequences are erased.
-/

namespace ShaderTools.Proofs.ColorSequences

open ShaderTools.Terminal

section Erasing

def isParameter (c : Char) : Bool := c.isDigit || c = ';'

/-- How many characters the sequence has that a text starts with, if it starts with one. -/
def sequenceLength : Text → Nat
  | '\x1b' :: '[' :: t =>
    if (t.dropWhile isParameter).head? = some 'm' then (t.takeWhile isParameter).length + 3 else 0
  | _ => 0

/-- The text behind some characters to be skipped, without its sequences. -/
def eraseFrom : (skipped : Nat) → Text → Text
  | _, [] => []
  | skipped + 1, _ :: rest => eraseFrom skipped rest
  | 0, c :: rest =>
    match sequenceLength (c :: rest) with
    | 0 => c :: eraseFrom 0 rest
    | length + 1 => eraseFrom length rest

/-- The text without its colour sequences. -/
def erase (t : Text) : Text := eraseFrom 0 t

/-- Whether a text is a sequence so far, without its end. -/
def isUnfinished : Text → Bool
  | ['\x1b'] => true
  | '\x1b' :: '[' :: t => t.all isParameter
  | _ => false

/-- A text does not end inside of what may be a sequence. -/
def Closed (t : Text) : Prop := ∀ s, s <:+ t → isUnfinished s = false

instance (t : Text) : Decidable (Closed t) :=
  decidable_of_iff (∀ s ∈ t.tails, isUnfinished s = false) (by simp only [List.mem_tails, Closed])

variable {a b s t parameters : Text} {c : Char}

theorem closed_nil : Closed [] := by
  decide

theorem last_of_isUnfinished (h : isUnfinished (s ++ [c]) = true) :
    c = '\x1b' ∨ c = '[' ∨ isParameter c = true := by
  match s with
  | [] =>
      unfold isUnfinished at h
      split at h <;> simp_all
  | [d] =>
      unfold isUnfinished at h
      split at h <;> simp_all
  | d :: e :: rest =>
      unfold isUnfinished at h
      split at h
      · simp_all
      · next heq =>
          obtain ⟨-, -, rfl⟩ : d = '\x1b' ∧ e = '[' ∧ _ := by simpa using heq
          exact .inr (.inr (List.all_eq_true.mp h c (by simp)))
      · simp at h

/-- What an unfinished sequence starts with is one itself. -/
theorem isUnfinished_of_append (hs : s ≠ []) (h : isUnfinished (s ++ b) = true) :
    isUnfinished s = true := by
  match s with
  | [d] =>
      unfold isUnfinished at h ⊢
      split at h <;> simp_all
  | d :: e :: rest =>
      unfold isUnfinished at h
      split at h
      · simp_all
      · next heq =>
          obtain ⟨rfl, rfl, rfl⟩ : d = '\x1b' ∧ e = '[' ∧ _ := by simpa using heq
          rw [List.all_append, Bool.and_eq_true] at h
          exact h.1
      · simp at h

theorem closed_concat (h : ¬ (c = '\x1b' ∨ c = '[' ∨ isParameter c = true)) (t : Text) :
    Closed (t ++ [c]) := by
  intro s hs
  rcases List.suffix_concat_iff.mp hs with rfl | ⟨front, rfl, -⟩
  · rfl
  · by_contra hopen
    exact h (last_of_isUnfinished (by simpa using hopen))

theorem Closed.append (ha : Closed a) (hb : Closed b) : Closed (a ++ b) := by
  intro s hsuffix
  -- An end of both texts is one of `b`, or one of `a` with `b` behind it.
  rcases List.suffix_or_suffix_of_suffix hsuffix (List.suffix_append a b) with hs | ⟨front, rfl⟩
  · exact hb s hs
  · have hfront : front <:+ a := by
      obtain ⟨before, hbefore⟩ := hsuffix
      exact ⟨before, List.append_cancel_right (by rw [List.append_assoc, hbefore])⟩
    cases front with
    | nil => exact hb b List.suffix_rfl
    | cons d rest =>
        by_contra hopen
        have hself := isUnfinished_of_append (List.cons_ne_nil _ _) (by simpa using hopen)
        rw [ha _ hfront] at hself
        exact Bool.false_ne_true hself

theorem Closed.isUnfinished_eq_false (h : Closed t) : isUnfinished t = false :=
  h t List.suffix_rfl

theorem sequenceLength_of_ne (h : c ≠ '\x1b') (t : Text) : sequenceLength (c :: t) = 0 := by
  unfold sequenceLength
  split
  · next heq => exact absurd (List.cons.inj heq).1 h
  · rfl

/-- Where a sequence that is begun comes to an end, or to what cannot stand in one, nothing behind
that counts. -/
theorem sequenceLength_append_of_behind (h : t.dropWhile isParameter ≠ []) (b : Text) :
    sequenceLength ('\x1b' :: '[' :: (t ++ b)) = sequenceLength ('\x1b' :: '[' :: t) := by
  have htake : (t ++ b).takeWhile isParameter = t.takeWhile isParameter := by
    rw [List.takeWhile_append, if_neg]
    intro hlength
    have hself := List.takeWhile_sublist isParameter (l := t) |>.eq_of_length hlength
    exact h (List.dropWhile_eq_nil_iff.mpr (List.takeWhile_eq_self_iff.mp hself))
  have hdrop : (t ++ b).dropWhile isParameter = t.dropWhile isParameter ++ b := by
    rw [List.dropWhile_append, if_neg (by simpa using h)]
  obtain ⟨e, behind, hrest⟩ := List.exists_cons_of_ne_nil h
  rw [sequenceLength, sequenceLength, htake, hdrop, hrest]
  rfl

/-- What a closed text starts with does not depend on what follows it. -/
theorem Closed.sequenceLength_append (h : Closed (c :: t)) (b : Text) :
    sequenceLength (c :: (t ++ b)) = sequenceLength (c :: t) := by
  by_cases hc : c = '\x1b'
  · subst hc
    cases t with
    | nil => exact absurd h.isUnfinished_eq_false (by decide)
    | cons d rest =>
        by_cases hd : d = '['
        · subst hd
          refine sequenceLength_append_of_behind (fun hnil => ?_) b
          have hall : rest.all isParameter = true :=
            List.all_eq_true.mpr (List.dropWhile_eq_nil_iff.mp hnil)
          have hopen := h.isUnfinished_eq_false
          rw [isUnfinished, hall] at hopen
          exact Bool.false_ne_true hopen.symm
        · rw [List.cons_append]
          unfold sequenceLength
          split <;> simp_all
  · rw [sequenceLength_of_ne hc, sequenceLength_of_ne hc]

/-- No sequence that is begun before a text goes on in it. -/
def Fresh (t : Text) : Prop := ∀ d ∈ t.head?, d ≠ '[' ∧ d ≠ 'm' ∧ isParameter d = false

theorem Fresh.head?_ne (h : Fresh b) : b.head? ≠ some 'm' := fun hm => (h 'm' hm).2.1 rfl

theorem Fresh.dropWhile_eq_self (h : Fresh b) : b.dropWhile isParameter = b := by
  cases b with
  | nil => rfl
  | cons d rest => exact List.dropWhile_cons_of_neg (by simp [(h d rfl).2.2])

/-- What a text starts with does not depend on a fresh one that follows it. -/
theorem Fresh.sequenceLength_append (h : Fresh b) (c : Char) (t : Text) :
    sequenceLength (c :: (t ++ b)) = sequenceLength (c :: t) := by
  by_cases hc : c = '\x1b'
  · subst hc
    match t with
    | [] =>
        unfold sequenceLength
        split
        · next rest heq => exact absurd rfl (h '[' (by simp_all)).1
        · rfl
    | d :: rest =>
        by_cases hd : d = '['
        · subst hd
          by_cases hnil : rest.dropWhile isParameter = []
          · have hend : (rest ++ b).dropWhile isParameter = b := by
              rw [List.dropWhile_append, if_pos (by simpa using hnil), h.dropWhile_eq_self]
            rw [List.cons_append, sequenceLength, sequenceLength, hend, hnil, if_neg h.head?_ne]
            rfl
          · exact sequenceLength_append_of_behind hnil b
        · rw [List.cons_append]
          unfold sequenceLength
          split <;> simp_all
  · rw [sequenceLength_of_ne hc, sequenceLength_of_ne hc]

theorem sequenceLength_le (t : Text) : sequenceLength t ≤ t.length := by
  unfold sequenceLength
  split
  · next t =>
      split
      · next hend =>
          have hwhole := congrArg List.length
            (List.takeWhile_append_dropWhile (p := isParameter) (l := t))
          have hbehind : t.dropWhile isParameter ≠ [] := by
            intro hnil
            simp [hnil] at hend
          have hpositive := List.length_pos_iff.mpr hbehind
          rw [List.length_append] at hwhole
          simp only [List.length_cons]
          omega
      · exact Nat.zero_le _
  · exact Nat.zero_le _

theorem eraseFrom_append (h : ∀ c t, c :: t <:+ a →
      sequenceLength (c :: (t ++ b)) = sequenceLength (c :: t))
    {skipped : Nat} (hskipped : skipped ≤ a.length) :
    eraseFrom skipped (a ++ b) = eraseFrom skipped a ++ erase b := by
  induction a generalizing skipped with
  | nil =>
      obtain rfl : skipped = 0 := Nat.le_zero.mp hskipped
      rfl
  | cons c rest ih =>
      have hrest : ∀ d t, d :: t <:+ rest →
          sequenceLength (d :: (t ++ b)) = sequenceLength (d :: t) :=
        fun d t ht => h d t (ht.trans (List.suffix_cons c rest))
      -- A sequence that is being skipped ends within `a`, and the next one starts there alone.
      cases skipped with
      | succ skipped =>
          exact ih hrest (Nat.le_of_succ_le_succ hskipped)
      | zero =>
          have hlength := h c rest List.suffix_rfl
          have hle := sequenceLength_le (c :: rest)
          rw [List.cons_append, eraseFrom, eraseFrom, hlength]
          cases hsequence : sequenceLength (c :: rest) with
          | zero =>
              simp only [List.cons_append]
              rw [ih hrest (Nat.zero_le _)]
          | succ length =>
              rw [hsequence] at hle
              exact ih hrest (Nat.le_of_succ_le_succ hle)

/-- Erasing goes through a closed text by itself. -/
theorem Closed.erase_append (h : Closed a) (b : Text) : erase (a ++ b) = erase a ++ erase b := by
  refine eraseFrom_append (fun c t ht => ?_) (Nat.zero_le _)
  exact Closed.sequenceLength_append (fun s hs => h s (hs.trans ht)) b

/-- Erasing goes through a fresh text by itself. -/
theorem Fresh.erase_append (h : Fresh b) (a : Text) : erase (a ++ b) = erase a ++ erase b :=
  eraseFrom_append (fun c t _ => h.sequenceLength_append c t) (Nat.zero_le _)

theorem eraseFrom_length_append (a b : Text) : eraseFrom a.length (a ++ b) = erase b := by
  induction a with
  | nil => rfl
  | cons c rest ih => exact ih

theorem erase_rendition_append (h : ∀ c ∈ parameters, isParameter c = true) (t : Text) :
    erase (rendition parameters ++ t) = erase t := by
  have htake : (parameters ++ 'm' :: t).takeWhile isParameter = parameters := by
    rw [List.takeWhile_append_of_pos h, List.takeWhile_cons_of_neg (by decide), List.append_nil]
  have hdrop : (parameters ++ 'm' :: t).dropWhile isParameter = 'm' :: t := by
    rw [List.dropWhile_append_of_pos h, List.dropWhile_cons_of_neg (by decide)]
  have hlength : sequenceLength ('\x1b' :: '[' :: (parameters ++ 'm' :: t)) =
      parameters.length + 3 := by
    rw [sequenceLength, hdrop, htake]
    rfl
  have hwhole : rendition parameters ++ t = '\x1b' :: '[' :: (parameters ++ 'm' :: t) := by
    simp [rendition]
  rw [hwhole, erase, eraseFrom, hlength]
  have hbehind := eraseFrom_length_append ('[' :: (parameters ++ ['m'])) t
  simpa using hbehind

end Erasing

section Stylings

variable {t t' a a' : Text}

/-- Two texts that are the same without their colour sequences, and closed. -/
structure Fades (t t' : Text) : Prop where
  closed : Closed t
  closed' : Closed t'
  erase : erase t = erase t'

theorem Closed.fades (h : Closed t) : Fades t t := ⟨h, h, rfl⟩

theorem Fades.append (ha : Fades a a') (h : Fades t t') : Fades (a ++ t) (a' ++ t') := by
  refine ⟨ha.closed.append h.closed, ha.closed'.append h.closed', ?_⟩
  rw [ha.closed.erase_append, ha.closed'.erase_append, ha.erase, h.erase]

theorem closed_rendition (parameters : Text) : Closed (rendition parameters) :=
  closed_concat (t := '\x1b' :: '[' :: parameters) (by decide)

theorem erase_rendition {parameters : Text} (h : ∀ c ∈ parameters, isParameter c = true) :
    erase (rendition parameters) = [] := by
  rw [← List.append_nil (rendition parameters), erase_rendition_append h]
  rfl

/-- A closed text fades into itself in every styling. -/
theorem Closed.fades_paint (h : Closed t) (styling : Styling) (color : Color) :
    Fades t (paint styling color t) := by
  have hframe : ∀ opening ending : Text, opening.all isParameter = true →
      ending.all isParameter = true → Fades t (rendition opening ++ t ++ rendition ending) := by
    intro opening ending hopening hending
    rw [List.all_eq_true] at hopening hending
    refine ⟨h, ((closed_rendition _).append h).append (closed_rendition _), ?_⟩
    rw [List.append_assoc, erase_rendition_append hopening, h.erase_append,
      erase_rendition hending, List.append_nil]
  cases styling with
  | plain => exact h.fades
  | colored => cases color <;> exact hframe _ _ rfl rfl
  | colorless => exact hframe _ _ rfl rfl

theorem Closed.fades_statusLine (h : Closed t) (styling : Styling) (severity : Severity) :
    Fades (statusLine .plain severity t) (statusLine styling severity t) := by
  have hicon : Closed severity.icon := by cases severity <;> decide
  have hblank : Closed [' '] := by decide
  exact (hicon.fades_paint styling severity.color).append
    (hblank.fades.append (h.fades_paint styling severity.color))

theorem fresh_nil : Fresh [] := fun _ hd => nomatch hd

theorem fresh_cons {c : Char} (h : c ≠ '[' ∧ c ≠ 'm' ∧ isParameter c = false) (t : Text) :
    Fresh (c :: t) := by
  intro d hd
  obtain rfl := Option.some.inj hd
  exact h

theorem Fresh.append (ha : Fresh a) (ht : Fresh t) : Fresh (a ++ t) := by
  cases a with
  | nil => exact ht
  | cons c rest => exact fresh_cons (ha c rfl) (rest ++ t)

theorem fresh_statusLine (styling : Styling) (severity : Severity) (message : Text) :
    Fresh (statusLine styling severity message ++ ['\n']) := by
  cases styling with
  | plain => cases severity <;> exact fresh_cons (by decide) _
  | colored => exact fresh_cons (by decide) _
  | colorless => exact fresh_cons (by decide) _

end Stylings

end ShaderTools.Proofs.ColorSequences
