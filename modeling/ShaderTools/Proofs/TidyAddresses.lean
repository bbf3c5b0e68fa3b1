import ShaderTools.Proofs.TextPieces
import ShaderTools.Release

/-!
The base address of the releases. Blanks are cut off both ends of it, then slashes off its end, and
what stood before the slashes is not looked at again. The address that is left is thus free of
blanks at its ends, and left alone by another pass, unless there was a blank before the slashes;
and it is empty if there was nothing but slashes.
-/

namespace ShaderTools.Proofs.TidyAddresses

open ShaderTools.Proofs.TextPieces
open ShaderTools.Release
open ShaderTools.Text

def OnlySlashes (t : Text) : Prop := t ≠ [] ∧ ∀ c ∈ t, c = '/'

/-- A blank with nothing but slashes behind it. -/
def BlankBeforeSlashes (t : Text) : Prop :=
  ∃ front c slashes, t = front ++ c :: slashes ∧ isBlank c = true ∧ ∀ d ∈ slashes, d = '/'

section Tidying

variable {base : Text} {c : Char}

theorem tidy_eq (base : Text) : tidy base = base.trim.rdropWhile (· = '/') := rfl

theorem tidy_beginning (base : Text) : tidy base <+: base.trim := List.rdropWhile_prefix _ _

theorem tidy_append_slashes (base : Text) :
    ∃ slashes, base.trim = tidy base ++ slashes ∧ ∀ d ∈ slashes, d = '/' := by
  refine ⟨base.trim.rtakeWhile (· = '/'), ?_, fun d hd => ?_⟩
  · rw [tidy_eq, List.rdropWhile_append_rtakeWhile]
  · simpa using List.mem_rtakeWhile_imp hd

theorem tidy_of_slashes {front slashes : Text} (htrim : base.trim = front ++ c :: slashes)
    (hc : c ≠ '/') (hslashes : ∀ d ∈ slashes, d = '/') : tidy base = front ++ [c] := by
  have hdrop : ∀ d ∈ slashes.reverse, decide (d = '/') = true := fun d hd =>
    decide_eq_true (hslashes d (List.mem_reverse.mp hd))
  rw [tidy_eq, htrim, List.rdropWhile, List.reverse_append, List.reverse_cons, List.append_assoc,
    List.dropWhile_append_of_pos hdrop]
  simp [hc]

theorem not_isBlank_of_mem_head?_tidy (h : c ∈ (tidy base).head?) : isBlank c = false := by
  obtain ⟨slashes, hslashes⟩ := tidy_beginning base
  have hhead : base.trim.head? = some c := by
    rw [← hslashes, List.head?_append, Option.mem_def.mp h, Option.some_or]
  exact not_isBlank_of_mem_head?_trim hhead

theorem ne_slash_of_mem_getLast?_tidy (h : c ∈ (tidy base).getLast?) : c ≠ '/' := by
  obtain ⟨hne, rfl⟩ := List.mem_getLast?_eq_getLast h
  exact of_decide_eq_false (eq_false_of_ne_true (List.rdropWhile_last_not _ _ hne))

theorem tidy_eq_nil_iff : tidy base = [] ↔ ∀ c ∈ base.trim, c = '/' := by
  simp only [tidy_eq, List.rdropWhile_eq_nil_iff, decide_eq_true_eq]

theorem isBlank_getLast?_tidy_iff :
    (∃ c ∈ (tidy base).getLast?, isBlank c = true) ↔ BlankBeforeSlashes base.trim := by
  constructor
  · rintro ⟨c, hlast, hblank⟩
    obtain ⟨front, hfront⟩ := List.getLast?_eq_some_iff.mp hlast
    obtain ⟨slashes, htrim, hslashes⟩ := tidy_append_slashes base
    rw [hfront, List.append_assoc] at htrim
    exact ⟨front, c, slashes, htrim, hblank, hslashes⟩
  · rintro ⟨front, c, slashes, htrim, hblank, hslashes⟩
    have hc : c ≠ '/' := by
      rintro rfl
      exact absurd hblank (by decide)
    exact ⟨c, by simp [tidy_of_slashes htrim hc hslashes], hblank⟩

theorem tidy_tidy_iff : tidy (tidy base) = tidy base ↔ ¬ BlankBeforeSlashes base.trim := by
  rw [← isBlank_getLast?_tidy_iff]
  constructor
  · rintro htidy ⟨c, hlast, hblank⟩
    -- the second pass cuts the blank off
    obtain ⟨front, hfront⟩ := List.getLast?_eq_some_iff.mp hlast
    have hshort : (tidy (tidy base)).length ≤ front.length := by
      have htrim := (tidy_beginning (front ++ [c])).length_le
      rw [trim_concat hblank] at htrim
      rw [hfront]
      exact htrim.trans (length_trim_le front)
    rw [htidy, hfront, List.length_append, List.length_singleton] at hshort
    omega
  · intro hlast
    have htrim : (tidy base).trim = tidy base := by
      refine trim_eq_self (fun c => not_isBlank_of_mem_head?_tidy) fun c hc => ?_
      exact eq_false_of_ne_true fun hblank => hlast ⟨c, hc, hblank⟩
    rw [tidy, htrim]
    exact List.rdropWhile_idempotent _ _

end Tidying

section Overrides

theorem tidy_defaultAddress : tidy defaultAddress = defaultAddress := by decide

theorem getLast?_defaultAddress : defaultAddress.getLast? = some 't' := by decide

/-- Only an override that is not blank counts. -/
theorem address_eq (override? : Option Text) :
    (address override? = defaultAddress ∧ ∀ t, override? = some t → t.trim = []) ∨
      ∃ t, override? = some t ∧ t.trim ≠ [] ∧ address override? = tidy t := by
  rcases override? with - | t
  · exact Or.inl ⟨tidy_defaultAddress, by simp⟩
  · by_cases ht : t.trim = []
    · have hfilter : (some t).filter (fun t => !t.trim.isEmpty) = none := by simp [ht]
      exact Or.inl ⟨by rw [address, hfilter, Option.getD_none, tidy_defaultAddress], by simp [ht]⟩
    · have hfilter : (some t).filter (fun t => !t.trim.isEmpty) = some t := by simp [ht]
      exact Or.inr ⟨t, rfl, ht, by rw [address, hfilter, Option.getD_some]⟩

theorem exists_tidy_eq_address (override? : Option Text) : ∃ t, address override? = tidy t :=
  ⟨_, rfl⟩

/-- The base address has no blank at its start and no slash at its end. It is empty only for an
override of slashes, and has a blank at its end only for one with a blank before its last slashes,
which are also the addresses that a second pass does not leave alone. -/
theorem address_tidy (override? : Option Text) (base : Text) :
    (∀ c ∈ (address override?).head?, isBlank c = false) ∧
    (∀ c ∈ (address override?).getLast?, c ≠ '/') ∧
    (address override? = [] ↔ ∃ t, override? = some t ∧ OnlySlashes t.trim) ∧
    ((∃ c ∈ (address override?).getLast?, isBlank c = true) ↔
      ∃ t, override? = some t ∧ BlankBeforeSlashes t.trim) ∧
    (tidy (tidy base) = tidy base ↔ ¬ BlankBeforeSlashes base.trim) := by
  refine ⟨?_, ?_, ?_, ?_, tidy_tidy_iff⟩
  · intro c hc
    obtain ⟨t, ht⟩ := exists_tidy_eq_address override?
    exact not_isBlank_of_mem_head?_tidy (ht ▸ hc)
  · intro c hc
    obtain ⟨t, ht⟩ := exists_tidy_eq_address override?
    exact ne_slash_of_mem_getLast?_tidy (ht ▸ hc)
  · rcases address_eq override? with ⟨haddress, hblank⟩ | ⟨t, rfl, ht, haddress⟩
    · rw [haddress]
      refine iff_of_false (by decide) ?_
      rintro ⟨t, ht, hne, -⟩
      exact hne (hblank t ht)
    · rw [haddress, tidy_eq_nil_iff]
      simp [OnlySlashes, ht]
  · rcases address_eq override? with ⟨haddress, hblank⟩ | ⟨t, rfl, ht, haddress⟩
    · rw [haddress, getLast?_defaultAddress]
      refine iff_of_false ?_ ?_
      · rintro ⟨c, hc, hc'⟩
        cases hc
        exact absurd hc' (by decide)
      · rintro ⟨t, ht, front, c, slashes, htrim, -⟩
        simp [hblank t ht] at htrim
    · rw [haddress, isBlank_getLast?_tidy_iff]
      simp

/-- Addresses of slashes, and with a blank before a slash. -/
theorem address_untidy :
    address (some "/".toList) = [] ∧ address (some "x /".toList) = "x ".toList ∧
      tidy (tidy "x /".toList) ≠ tidy "x /".toList := by
  decide

end Overrides

end ShaderTools.Proofs.TidyAddresses
