import ShaderTools.Text.Numeral

/-!
Decimal numerals. A text is read as the integer that it stands for if that fits into a word of 64
bits, and every integer is written as a numeral that stands for it.
-/

namespace ShaderTools.Proofs.DecimalNumerals

open ShaderTools.Text

section Meaning

/-- One or more decimal digits. -/
structure IsDigits (t : Text) : Prop where
  nonempty : t ≠ []
  digits : ∀ c ∈ t, c.isDigit = true

/-- The integer that a decimal numeral stands for, with a sign or without one. -/
inductive StandsFor : Text → Int → Prop
  | unsigned {t : Text} (h : IsDigits t) : StandsFor t (Nat.ofDigitChars 10 t 0)
  | plus {t : Text} (h : IsDigits t) : StandsFor ('+' :: t) (Nat.ofDigitChars 10 t 0)
  | minus {t : Text} (h : IsDigits t) : StandsFor ('-' :: t) (-(Nat.ofDigitChars 10 t 0 : Int))

/-- Whether an integer fits into a signed word of 64 bits. -/
def IsWord (k : Int) : Prop := -9223372036854775808 ≤ k ∧ k ≤ 9223372036854775807

end Meaning

section Reading

variable {t : Text} {n : Nat} {k : Int}

theorem isDigit_iff (c : Char) : c.isDigit = true ↔ '0' ≤ c ∧ c ≤ '9' := by
  simp only [Char.isDigit, Bool.and_eq_true, decide_eq_true_eq]
  rfl

theorem digitsValueFrom_eq_some_iff (high : Nat) :
    digitsValueFrom high t = some n ↔
      (∀ c ∈ t, c.isDigit = true) ∧ Nat.ofDigitChars 10 t high = n := by
  induction t generalizing high with
  | nil => simp [digitsValueFrom]
  | cons c rest ih =>
      rw [digitsValueFrom, List.forall_mem_cons, Nat.ofDigitChars_cons]
      split
      · next hdigit =>
          have hdigit' : c.isDigit = true := (isDigit_iff c).mpr hdigit
          simpa [hdigit'] using ih _
      · next hother =>
          have hother' : ¬c.isDigit = true := fun hdigit => hother ((isDigit_iff c).mp hdigit)
          simp [hother']

theorem digitsValue?_eq_some_iff :
    digitsValue? t = some n ↔ IsDigits t ∧ Nat.ofDigitChars 10 t 0 = n := by
  cases t with
  | nil =>
      constructor
      · intro h
        simp [digitsValue?] at h
      · rintro ⟨hdigits, -⟩
        exact absurd rfl hdigits.nonempty
  | cons c rest =>
      have hread := digitsValueFrom_eq_some_iff (t := c :: rest) (n := n) 0
      rw [digitsValue?, List.isEmpty_cons, if_neg Bool.false_ne_true, hread]
      constructor
      · rintro ⟨hdigits, hvalue⟩
        exact ⟨⟨by simp, hdigits⟩, hvalue⟩
      · rintro ⟨hdigits, hvalue⟩
        exact ⟨hdigits.digits, hvalue⟩

theorem not_isDigits_cons {c : Char} (hc : c.isDigit = false) (rest : Text) :
    ¬IsDigits (c :: rest) := by
  intro h
  simp [h.digits c (by simp)] at hc

theorem standsFor_cons_minus_iff : StandsFor ('-' :: t) k ↔
    IsDigits t ∧ k = -(Nat.ofDigitChars 10 t 0 : Int) := by
  constructor
  · intro h
    cases h with
    | unsigned h => exact absurd h (not_isDigits_cons rfl t)
    | minus h => exact ⟨h, rfl⟩
  · rintro ⟨h, rfl⟩
    exact .minus h

theorem standsFor_cons_plus_iff : StandsFor ('+' :: t) k ↔
    IsDigits t ∧ k = Nat.ofDigitChars 10 t 0 := by
  constructor
  · intro h
    cases h with
    | unsigned h => exact absurd h (not_isDigits_cons rfl t)
    | plus h => exact ⟨h, rfl⟩
  · rintro ⟨h, rfl⟩
    exact .plus h

theorem standsFor_iff_of_unsigned (hplus : ∀ rest, t ≠ '+' :: rest)
    (hminus : ∀ rest, t ≠ '-' :: rest) :
    StandsFor t k ↔ IsDigits t ∧ k = Nat.ofDigitChars 10 t 0 := by
  constructor
  · intro h
    cases h with
    | unsigned h => exact ⟨h, rfl⟩
    | plus h => exact absurd rfl (hplus _)
    | minus h => exact absurd rfl (hminus _)
  · rintro ⟨h, rfl⟩
    exact .unsigned h

theorem isWord_natCast_iff (n : Nat) : IsWord n ↔ n < wordLimit := by
  rw [IsWord, wordLimit]
  omega

theorem isWord_neg_natCast_iff (n : Nat) : IsWord (-n) ↔ n ≤ wordLimit := by
  rw [IsWord, wordLimit]
  omega

/-- The value of digits is kept, with its sign, if it fits. -/
theorem bind_digitsValue?_eq_some_iff {fits : Nat → Prop} [DecidablePred fits] {signed : Nat → Int}
    (hfits : ∀ n, IsWord (signed n) ↔ fits n) :
    ((digitsValue? t).bind fun n => if fits n then some (signed n) else none) = some k ↔
      (IsDigits t ∧ k = signed (Nat.ofDigitChars 10 t 0)) ∧ IsWord k := by
  simp only [Option.bind_eq_some_iff, digitsValue?_eq_some_iff, Option.ite_none_right_eq_some,
    Option.some.injEq]
  constructor
  · rintro ⟨n, ⟨hdigits, rfl⟩, hfit, rfl⟩
    exact ⟨⟨hdigits, rfl⟩, (hfits _).mpr hfit⟩
  · rintro ⟨⟨hdigits, rfl⟩, hword⟩
    exact ⟨_, ⟨hdigits, rfl⟩, (hfits _).mp hword, rfl⟩

/-- A text is read as a number if and only if it stands for that number, and the number fits. -/
theorem wordValue?_eq_some_iff : wordValue? t = some k ↔ StandsFor t k ∧ IsWord k := by
  fun_cases wordValue? t with
  | case1 digits =>
      rw [standsFor_cons_minus_iff]
      exact bind_digitsValue?_eq_some_iff isWord_neg_natCast_iff
  | case2 digits =>
      rw [standsFor_cons_plus_iff]
      exact bind_digitsValue?_eq_some_iff isWord_natCast_iff
  | case3 digits hminus hplus =>
      rw [standsFor_iff_of_unsigned hplus hminus]
      exact bind_digitsValue?_eq_some_iff isWord_natCast_iff

end Reading

section Writing

theorem digit_eq_digitChar {d : Nat} (h : d < 10) : digit d = d.digitChar := by
  have hall : ∀ d < 10, digit d = d.digitChar := by decide
  exact hall d h

theorem forall_mem_numeralWithin {P : Char → Prop} {base : Nat} (hpos : 0 < base)
    (hdigit : ∀ d < base, P (digit d)) (room n : Nat) : ∀ c ∈ numeralWithin base room n, P c := by
  induction room generalizing n with
  | zero => simp [numeralWithin]
  | succ room ih =>
      rw [numeralWithin]
      split
      · next hsmall => exact List.forall_mem_singleton.mpr (hdigit n hsmall)
      · rw [List.forall_mem_append]
        exact ⟨ih _, List.forall_mem_singleton.mpr (hdigit _ (Nat.mod_lt n hpos))⟩

theorem numeralWithin_ten {room n : Nat} (h : n < room) :
    numeralWithin 10 room n = Nat.toDigits 10 n := by
  induction room generalizing n with
  | zero => omega
  | succ room ih =>
      rw [numeralWithin]
      split
      · next hsmall => rw [Nat.toDigits_of_lt_base hsmall, digit_eq_digitChar hsmall]
      · next hlarge =>
          rw [Nat.toDigits_of_base_le (by omega) (by omega), ih (by omega),
            digit_eq_digitChar (by omega)]

theorem ofNat_eq_toDigits (n : Nat) : Text.ofNat n = Nat.toDigits 10 n :=
  numeralWithin_ten (Nat.lt_succ_self n)

theorem ofInt_eq_toString (k : Int) : Text.ofInt k = (toString k).toList := by
  cases k with
  | ofNat n =>
      have hdigits : (toString (Int.ofNat n)).toList = Nat.toDigits 10 n := by
        simp [toString, Int.repr]
      rw [Text.ofInt, ofNat_eq_toDigits, hdigits]
  | negSucc n =>
      have hdigits : (toString (Int.negSucc n)).toList = '-' :: Nat.toDigits 10 (n + 1) := by
        simp [toString, Int.repr]
      rw [Text.ofInt, ofNat_eq_toDigits, hdigits]

theorem isDigits_toDigits (n : Nat) : IsDigits (Nat.toDigits 10 n) where
  nonempty := Nat.toDigits_ne_nil
  digits _ hc := Nat.isDigit_of_mem_toDigits (by omega) (by omega) hc

theorem digitsValue?_ofNat (n : Nat) : digitsValue? (Text.ofNat n) = some n := by
  rw [digitsValue?_eq_some_iff, ofNat_eq_toDigits]
  exact ⟨isDigits_toDigits n, Nat.ofDigitChars_ten_toDigits⟩

theorem standsFor_ofInt (k : Int) : StandsFor (Text.ofInt k) k := by
  cases k with
  | ofNat n =>
      have h := StandsFor.unsigned (isDigits_toDigits n)
      rw [Nat.ofDigitChars_ten_toDigits] at h
      rwa [Text.ofInt, ofNat_eq_toDigits]
  | negSucc n =>
      have h := StandsFor.minus (isDigits_toDigits (n + 1))
      rw [Nat.ofDigitChars_ten_toDigits] at h
      rwa [Text.ofInt, ofNat_eq_toDigits]

end Writing

section SmallValues

theorem exists_digitChar {c : Char} (h : c.isDigit = true) : ∃ d < 10, c = d.digitChar := by
  obtain ⟨hlow, hhigh⟩ := (isDigit_iff c).mp h
  have hlow' : 48 ≤ c.toNat := hlow
  have hhigh' : c.toNat ≤ 57 := hhigh
  have hd : c.toNat - 48 < 10 := by omega
  refine ⟨c.toNat - 48, hd, ?_⟩
  rw [← digit_eq_digitChar hd, digit, if_pos hd, Nat.add_sub_cancel' hlow', Char.ofNat_toNat]

variable {d : Nat}

theorem isDigits_behind_zeros (hd : d < 10) (zeros : Nat) :
    IsDigits (List.replicate zeros '0' ++ [d.digitChar]) := by
  refine ⟨by simp, fun c hc => ?_⟩
  rcases List.mem_append.mp hc with hzero | hlast
  · rw [List.eq_of_mem_replicate hzero]
    rfl
  · rw [List.mem_singleton.mp hlast, Nat.isDigit_digitChar]
    simpa using hd

theorem value_behind_zeros (hd : d < 10) (zeros : Nat) :
    Nat.ofDigitChars 10 (List.replicate zeros '0' ++ [d.digitChar]) 0 = d := by
  rw [Nat.ofDigitChars_append, Nat.ofDigitChars_replicate_zero, Nat.mul_zero,
    Nat.ofDigitChars_cons_digitChar_of_lt_ten hd, Nat.mul_zero, Nat.zero_add]
  rfl

/-- Digits have the value of a single digit only if they are that digit behind zeros. -/
theorem exists_zeros_of_value {t : Text} (h : IsDigits t) (hd : d < 10)
    (hvalue : Nat.ofDigitChars 10 t 0 = d) :
    ∃ zeros, t = List.replicate zeros '0' ++ [d.digitChar] := by
  induction t with
  | nil => exact absurd rfl h.nonempty
  | cons c rest ih =>
      obtain ⟨first, hfirst, rfl⟩ := exists_digitChar (h.digits c (by simp))
      rw [Nat.ofDigitChars_cons_digitChar_of_lt_ten hfirst, Nat.mul_zero, Nat.zero_add] at hvalue
      cases rest with
      | nil =>
          obtain rfl : first = d := hvalue
          exact ⟨0, rfl⟩
      | cons second rest =>
          -- a first digit above zero would make the value ten at least
          rw [Nat.ofDigitChars_eq_ofDigitChars_zero, List.length_cons, Nat.pow_succ] at hvalue
          have hpower : 0 < 10 ^ rest.length := Nat.pow_pos (by omega)
          have hzero : first = 0 := by
            refine Nat.eq_zero_of_not_pos fun hpositive => ?_
            have hlarge : 10 ^ rest.length * 10 * 1 ≤ 10 ^ rest.length * 10 * first :=
              Nat.mul_le_mul_left _ hpositive
            omega
          subst hzero
          rw [Nat.mul_zero, Nat.zero_add] at hvalue
          have hrest : IsDigits (second :: rest) :=
            ⟨by simp, fun e he => h.digits e (List.mem_cons_of_mem _ he)⟩
          obtain ⟨zeros, hzeros⟩ := ih hrest hvalue
          exact ⟨zeros + 1, by rw [hzeros]; rfl⟩

end SmallValues

end ShaderTools.Proofs.DecimalNumerals
