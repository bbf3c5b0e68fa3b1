import ShaderTools.Text.Quoted
import ShaderTools.Proofs.DecimalNumerals

/-!
Quoted texts. Whatever a text holds, it is read back from its quoted form, in which no character is
hidden.
-/

namespace ShaderTools.Proofs.QuotedTexts

open ShaderTools.Text
open ShaderTools.Proofs.DecimalNumerals

section Reading

theorem unescape_digit {n d : Nat} (hd : d < 16) (rest : Text) :
    unescape (some n) (digit d :: rest) = unescape (some (16 * n + d)) rest := by
  have hall : ∀ d < 16, digit d ≠ '\x7d' ∧ digitValue? (digit d) = some d := by decide
  obtain ⟨hclose, hvalue⟩ := hall d hd
  simp [unescape, hclose, hvalue]

theorem unescape_numeralWithin {room n : Nat} (h : n < room) (rest : Text) :
    unescape (some 0) (numeralWithin 16 room n ++ rest) = unescape (some n) rest := by
  induction room generalizing n rest with
  | zero => omega
  | succ room ih =>
      rw [numeralWithin]
      split
      · next hsmall =>
          rw [List.singleton_append, unescape_digit hsmall, Nat.mul_zero, Nat.zero_add]
      · next hlarge =>
          have hlast : n % 16 < 16 := Nat.mod_lt n (by omega)
          rw [List.append_assoc, ih (by omega), List.singleton_append, unescape_digit hlast,
            Nat.div_add_mod]

theorem unescape_code (c : Char) (rest : Text) :
    unescape none (['\\', 'u', '\x7b'] ++ numeral 16 c.toNat ++ ['\x7d'] ++ rest) =
      (unescape none rest).map (c :: ·) := by
  have hread : unescape none ('\\' :: 'u' :: '\x7b' :: (numeral 16 c.toNat ++ '\x7d' :: rest)) =
      unescape (some 0) (numeral 16 c.toNat ++ '\x7d' :: rest) := by
    simp [unescape]
  have hclose : unescape (some c.toNat) ('\x7d' :: rest) =
      (unescape none rest).map (Char.ofNat c.toNat :: ·) := by
    simp [unescape]
  simp only [List.append_assoc, List.cons_append, List.nil_append]
  rw [hread, numeral, unescape_numeralWithin (Nat.lt_succ_self _), hclose, Char.ofNat_toNat]

theorem unescape_letter {c letter : Char} (h : (c, letter) ∈ shortEscapes) (rest : Text) :
    unescape none ('\\' :: letter :: rest) = (unescape none rest).map (c :: ·) := by
  have hall : ∀ escape ∈ shortEscapes, escape.2 ≠ 'u' ∧ shortEscape? escape.2 = some escape.1 := by
    decide
  obtain ⟨hcode, hmeant⟩ := hall _ h
  simp [unescape, hcode, hmeant]

theorem mem_of_lookup {c letter : Char} (h : shortEscapes.lookup c = some letter) :
    (c, letter) ∈ shortEscapes := by
  obtain ⟨before, after, hescapes, -⟩ := List.lookup_eq_some_iff.mp h
  rw [hescapes]
  exact List.mem_append_right before List.mem_cons_self

/-- A character is read back from the way it is written, whatever follows. -/
theorem unescape_escape (c : Char) (rest : Text) :
    unescape none (escape c ++ rest) = (unescape none rest).map (c :: ·) := by
  unfold escape
  split
  · next letter hletter => exact unescape_letter (mem_of_lookup hletter) rest
  · next hnone =>
      split
      · exact unescape_code c rest
      · have hquote : c ≠ '"' := by
          rintro rfl
          simp [shortEscapes] at hnone
        have hslash : c ≠ '\\' := by
          rintro rfl
          simp [shortEscapes] at hnone
        rw [List.singleton_append, unescape.eq_def]
        simp only [if_neg hquote, if_neg hslash]

theorem unescape_flatMap_escape (t : Text) :
    unescape none (t.flatMap escape ++ ['"']) = some t := by
  induction t with
  | nil => rfl
  | cons c rest ih =>
      rw [List.flatMap_cons, List.append_assoc, unescape_escape, ih, Option.map_some]

theorem unquote_quote (t : Text) : unquote t.quote = some t := unescape_flatMap_escape t

end Reading

section Visibility

/-- Whether every character of a text can be seen. -/
def IsVisible (t : Text) : Prop := ∀ c ∈ t, isHidden c = false

/-- The space, and the marks, digits and letters that are encoded in seven bits. -/
def isBasic (c : Char) : Bool := 0x20 ≤ c.toNat && c.toNat < 0x7f

theorem inRanges_eq_false {table : List (Nat × Nat)} {bound : Nat} {c : Char}
    (htable : table.all (bound ≤ ·.1) = true) (hc : c.toNat < bound) :
    inRanges table c = false := by
  rw [inRanges, List.any_eq_false]
  intro range hrange
  have hstart : bound ≤ range.1 := by simpa using List.all_eq_true.mp htable range hrange
  simp only [Bool.and_eq_true, decide_eq_true_eq]
  omega

theorem not_isHidden_of_isBasic {c : Char} (h : isBasic c = true) : isHidden c = false := by
  have htables : voidRanges.all (0x7f ≤ ·.1) = true ∧ nonspacingRanges.all (0x7f ≤ ·.1) = true ∧
      extendingRanges.all (0x7f ≤ ·.1) = true := by
    decide +kernel
  simp only [isBasic, Bool.and_eq_true, decide_eq_true_eq] at h
  have hcontrol : isControl c = false := by
    simp only [isControl, inRanges, controlRanges, List.any_cons, List.any_nil, Bool.or_false,
      Bool.or_eq_false_iff, Bool.and_eq_false_iff, decide_eq_false_iff_not]
    omega
  simp only [isHidden, isVoid, isNonspacing, hcontrol, inRanges_eq_false htables.1 h.2,
    inRanges_eq_false htables.2.1 h.2, inRanges_eq_false htables.2.2 h.2, Bool.or_self]

theorem isVisible_append {a b : Text} : IsVisible (a ++ b) ↔ IsVisible a ∧ IsVisible b :=
  List.forall_mem_append

theorem isVisible_of_isBasic {t : Text} (h : t.all isBasic = true) : IsVisible t :=
  fun c hc => not_isHidden_of_isBasic (List.all_eq_true.mp h c hc)

theorem not_isControl_of_isVisible {t : Text} (h : IsVisible t) : ∀ c ∈ t, isControl c = false :=
  fun c hc => eq_false_of_ne_true fun hcontrol =>
    Bool.eq_false_iff.mp (h c hc) (isHidden_of_isControl hcontrol)

theorem isVisible_numeral {base : Nat} (hpos : 0 < base) (hbase : base ≤ 36) (n : Nat) :
    IsVisible (numeral base n) := by
  have hdigit : ∀ d < 36, isBasic (digit d) = true := by decide
  exact forall_mem_numeralWithin hpos
    (fun d hd => not_isHidden_of_isBasic (hdigit d (by omega))) _ n

theorem isVisible_escape (c : Char) : IsVisible (escape c) := by
  unfold escape
  split
  · next letter hletter =>
      have hall : ∀ escape ∈ shortEscapes, ['\\', escape.2].all isBasic = true := by decide
      exact isVisible_of_isBasic (hall _ (mem_of_lookup hletter))
  · split
    · rw [isVisible_append, isVisible_append]
      exact ⟨⟨isVisible_of_isBasic rfl, isVisible_numeral (by decide) (by decide) _⟩,
        isVisible_of_isBasic rfl⟩
    · next hseen => simpa [IsVisible] using hseen

theorem isVisible_quote (t : Text) : IsVisible t.quote := by
  have hquote : isHidden '"' = false := not_isHidden_of_isBasic rfl
  intro c hc
  simp only [quote, List.mem_cons, List.mem_append, List.mem_flatMap, List.not_mem_nil,
    or_false] at hc
  rcases hc with rfl | ⟨d, -, hd⟩ | rfl
  · exact hquote
  · exact isVisible_escape d c hd
  · exact hquote

end Visibility

end ShaderTools.Proofs.QuotedTexts
