import ShaderTools.Platform
import ShaderTools.Proofs.DecimalNumerals
import ShaderTools.Proofs.TextPieces

/-!
Which texts select a platform, and what is told of the others. A platform has its digit behind any
number of zeros, with a plus sign or without one, and the first platform also has minus zero. Of a
text that selects none the number is told, or the text itself where it is no number or too large a
one; what is told selects nothing either, and the same is told of it again.
-/

namespace ShaderTools.Proofs.PlatformSelections

open ShaderTools.Text
open ShaderTools.Proofs.TextPieces
open ShaderTools.Proofs.DecimalNumerals

section Numerals

/-- The texts that select a platform. -/
inductive Selects : Text → Platform → Prop
  | unsigned (zeros : Nat) (p : Platform) :
      Selects (List.replicate zeros '0' ++ [p.code.digitChar]) p
  | plus (zeros : Nat) (p : Platform) :
      Selects ('+' :: (List.replicate zeros '0' ++ [p.code.digitChar])) p
  | minus (zeros : Nat) : Selects ('-' :: List.replicate (zeros + 1) '0') .windows

variable {t v : Text} {p : Platform} {k : Int}

theorem code_lt (p : Platform) : p.code < 10 := by
  cases p <;> decide

theorem isWord_code (p : Platform) : IsWord p.code := by
  have hcode := code_lt p
  rw [IsWord]
  omega

theorem standsFor_of_selects (h : Selects t p) : StandsFor t p.code := by
  cases h with
  | unsigned zeros p =>
      have hstands := StandsFor.unsigned (isDigits_behind_zeros (code_lt p) zeros)
      rwa [value_behind_zeros (code_lt p)] at hstands
  | plus zeros p =>
      have hstands := StandsFor.plus (isDigits_behind_zeros (code_lt p) zeros)
      rwa [value_behind_zeros (code_lt p)] at hstands
  | minus zeros =>
      have hstands := StandsFor.minus (isDigits_behind_zeros (d := 0) (by omega) zeros)
      rw [value_behind_zeros (by omega)] at hstands
      rwa [List.replicate_succ']

theorem selects_of_standsFor (h : StandsFor t p.code) : Selects t p := by
  generalize hk : (p.code : Int) = k at h
  cases h with
  | unsigned hdigits =>
      obtain ⟨zeros, rfl⟩ := exists_zeros_of_value hdigits (code_lt p) (by omega)
      exact .unsigned zeros p
  | plus hdigits =>
      obtain ⟨zeros, rfl⟩ := exists_zeros_of_value hdigits (code_lt p) (by omega)
      exact .plus zeros p
  | minus hdigits =>
      obtain ⟨zeros, rfl⟩ := exists_zeros_of_value (d := 0) hdigits (by omega) (by omega)
      have hcode : p.code = 0 := by omega
      obtain rfl : p = .windows := by
        cases p with
        | windows => rfl
        | linux => simp [Platform.code] at hcode
        | osx => simp [Platform.code] at hcode
      have hzeros := Selects.minus zeros
      rwa [List.replicate_succ'] at hzeros

/-- A text selects a platform if and only if it stands for its number. -/
theorem selects_iff : Selects t p ↔ StandsFor t p.code :=
  ⟨standsFor_of_selects, selects_of_standsFor⟩

theorem isBlank_of_isDigit {c : Char} (h : c.isDigit = true) : isBlank c = false := by
  obtain ⟨d, hd, rfl⟩ := exists_digitChar h
  have hall : ∀ d < 10, isBlank d.digitChar = false := by decide
  exact hall d hd

theorem not_isBlank_of_standsFor (h : StandsFor t k) : ∀ c ∈ t, isBlank c = false := by
  have hsign : isBlank '+' = false ∧ isBlank '-' = false := by decide
  cases h with
  | unsigned h => exact fun c hc => isBlank_of_isDigit (h.digits c hc)
  | plus h =>
      rw [List.forall_mem_cons]
      exact ⟨hsign.1, fun c hc => isBlank_of_isDigit (h.digits c hc)⟩
  | minus h =>
      rw [List.forall_mem_cons]
      exact ⟨hsign.2, fun c hc => isBlank_of_isDigit (h.digits c hc)⟩

theorem trim_of_standsFor (h : StandsFor t k) : t.trim = t := by
  have hchars := not_isBlank_of_standsFor h
  exact trim_eq_self (fun c hc => hchars c (List.mem_of_mem_head? hc))
    fun c hc => hchars c (List.mem_of_mem_getLast? hc)

end Numerals

section Selections

/-- What is told of a text that selects no platform: the number that it stands for if that fits
into a word, and else the text. -/
def Told (t v : Text) : Prop :=
  (∃ k, StandsFor t k ∧ IsWord k ∧ v = (toString k).toList) ∨
    ((∀ k, StandsFor t k → ¬IsWord k) ∧ v = t)

variable {t v : Text} {p : Platform} {k : Int}

theorem exists_told (t : Text) : ∃ v, Told t v := by
  by_cases h : ∃ k, StandsFor t k ∧ IsWord k
  · obtain ⟨k, hstands, hword⟩ := h
    exact ⟨_, Or.inl ⟨k, hstands, hword, rfl⟩⟩
  · exact ⟨t, Or.inr ⟨fun k hstands hword => h ⟨k, hstands, hword⟩, rfl⟩⟩

theorem ofCode_of_ne (h : ∀ p : Platform, k ≠ p.code) :
    Platform.ofCode k = .error ⟨Text.ofInt k⟩ := by
  have hwindows : k ≠ 0 := h .windows
  have hlinux : k ≠ 1 := h .linux
  have hosx : k ≠ 2 := h .osx
  rw [Platform.ofCode, if_neg hwindows, if_neg hlinux, if_neg hosx]

theorem ofText_of_selects (h : Selects t.trim p) : Platform.ofText t = .ok p := by
  have hread := wordValue?_eq_some_iff.mpr ⟨selects_iff.mp h, isWord_code p⟩
  rw [Platform.ofText, hread]
  cases p <;> rfl

theorem ofText_of_told (h : ∀ p, ¬Selects t.trim p) (htold : Told t.trim v) :
    Platform.ofText t = .error ⟨v⟩ := by
  rcases htold with ⟨k, hstands, hword, rfl⟩ | ⟨hnone, rfl⟩
  · have hread := wordValue?_eq_some_iff.mpr ⟨hstands, hword⟩
    have hcode : ∀ p : Platform, k ≠ p.code := by
      rintro p rfl
      exact h p (selects_iff.mpr hstands)
    rw [Platform.ofText, hread, ← ofInt_eq_toString]
    exact ofCode_of_ne hcode
  · have hread : wordValue? t.trim = none := by
      rw [Option.eq_none_iff_forall_ne_some]
      intro k hk
      obtain ⟨hstands, hword⟩ := wordValue?_eq_some_iff.mp hk
      exact hnone k hstands hword
    rw [Platform.ofText, hread]

theorem selects_of_ofText (h : Platform.ofText t = .ok p) : Selects t.trim p := by
  by_cases hselects : ∃ q, Selects t.trim q
  · obtain ⟨q, hq⟩ := hselects
    rw [ofText_of_selects hq, Except.ok.injEq] at h
    exact h ▸ hq
  · obtain ⟨v, hv⟩ := exists_told t.trim
    rw [ofText_of_told (not_exists.mp hselects) hv] at h
    simp at h

theorem told_of_ofText (h : Platform.ofText t = .error ⟨v⟩) :
    (∀ p, ¬Selects t.trim p) ∧ Told t.trim v := by
  have hnone : ∀ p, ¬Selects t.trim p := by
    intro p hp
    rw [ofText_of_selects hp] at h
    simp at h
  obtain ⟨v', hv'⟩ := exists_told t.trim
  rw [ofText_of_told hnone hv', Except.error.injEq, UnknownPlatform.mk.injEq] at h
  exact ⟨hnone, h ▸ hv'⟩

/-- What is told of a text selects nothing either, and is told of itself. -/
theorem told_again (h : ∀ p, ¬Selects t.trim p) (htold : Told t.trim v) :
    (∀ p, ¬Selects v.trim p) ∧ Told v.trim v := by
  rcases htold with ⟨k, hstands, hword, rfl⟩ | ⟨hnone, rfl⟩
  · rw [← ofInt_eq_toString]
    have hwritten := standsFor_ofInt k
    rw [trim_of_standsFor hwritten]
    refine ⟨?_, Or.inl ⟨k, hwritten, hword, ofInt_eq_toString k⟩⟩
    intro p hp
    have hread := wordValue?_eq_some_iff.mpr ⟨hwritten, hword⟩
    rw [wordValue?_eq_some_iff.mpr ⟨selects_iff.mp hp, isWord_code p⟩, Option.some.injEq] at hread
    subst hread
    exact h p (selects_iff.mpr hstands)
  · rw [trim_trim]
    exact ⟨h, Or.inr ⟨hnone, rfl⟩⟩

end Selections

/-- A text gives a platform if and only if it selects it, and else the error that tells what is
told of it; the text that is told gives the same error. -/
theorem ofText_answers (t : Text) :
    (∀ p, Platform.ofText t = .ok p ↔ Selects t.trim p) ∧
      (∀ v, Platform.ofText t = .error ⟨v⟩ ↔ (∀ p, ¬Selects t.trim p) ∧ Told t.trim v) ∧
      ∀ v, Platform.ofText t = .error ⟨v⟩ → Platform.ofText v = .error ⟨v⟩ := by
  refine ⟨fun p => ⟨selects_of_ofText, ofText_of_selects⟩,
    fun v => ⟨told_of_ofText, fun h => ofText_of_told h.1 h.2⟩, fun v h => ?_⟩
  obtain ⟨hnone, htold⟩ := told_of_ofText h
  obtain ⟨hnone', htold'⟩ := told_again hnone htold
  exact ofText_of_told hnone' htold'

theorem ofText_answers_least :
    Platform.ofText "\t-09223372036854775808".toList = .error ⟨"-9223372036854775808".toList⟩ ∧
      Platform.ofText "-9223372036854775808".toList = .error ⟨"-9223372036854775808".toList⟩ := by
  have hleast : Platform.ofText "\t-09223372036854775808".toList =
      .error ⟨"-9223372036854775808".toList⟩ := by
    decide +kernel
  exact ⟨hleast, (ofText_answers _).2.2 _ hleast⟩

example : Platform.ofText "09223372036854775808 ".toList =
    .error ⟨"09223372036854775808".toList⟩ := by
  decide +kernel

end ShaderTools.Proofs.PlatformSelections
