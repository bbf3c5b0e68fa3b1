import ShaderTools.Proofs.ListingResults

/-!
The uniforms that lines give. Their name and their type are without blanks, and their detail is
words with single spaces between them; so no other blank than a space is in any of them.
-/

namespace ShaderTools.Proofs.UniformRecords

open ShaderTools.Text
open ShaderTools.Uniform
open ShaderTools.Proofs.TextPieces
open ShaderTools.Proofs.ListingResults

section Records

/-- Whether a text is a single field: not empty, and without blanks. -/
structure IsField (t : Text) : Prop where
  nonempty : t ≠ []
  blank : ∀ c ∈ t, isBlank c = false

/-- What the uniform of a line looks like. -/
structure IsRecord (u : Uniform) : Prop where
  kind : ∀ c ∈ u.kind, isBlank c = false
  label : ∀ c ∈ u.label, isBlank c = false
  detail : ∃ ws : List Text, (∀ w ∈ ws, IsField w) ∧ u.detail = List.intercalate [' '] ws

variable {line : Text} {u : Uniform}

theorem isField_of_mem_fields {w : Text} (h : w ∈ line.fields) : IsField w := by
  obtain ⟨hne, hchars⟩ := of_mem_words h
  exact ⟨hne, fun c hc => (hchars c hc).1⟩

theorem fields_eq_singleton {w : Text} (h : IsField w) : w.fields = [w] :=
  words_eq_singleton h.nonempty h.blank

theorem fields_append_space (a b : Text) : (a ++ ' ' :: b).fields = a.fields ++ b.fields :=
  words_append_separator (by decide) a b

theorem fields_intercalate {ws : List Text} (h : ∀ w ∈ ws, IsField w) :
    fields (List.intercalate [' '] ws) = ws := by
  have hwords : words isBlank (List.intercalate [' '] ws) = ws.filter (· ≠ []) :=
    words_intercalate (by decide) fun w hw => (h w hw).blank
  have hall : ws.filter (· ≠ []) = ws := by
    rw [List.filter_eq_self]
    intro w hw
    simpa using (h w hw).nonempty
  exact hwords.trans hall

theorem isRecord_of_ofLine? (h : ofLine? line = some u) : IsRecord u := by
  have hfield : ∀ w ∈ line.fields, IsField w := fun w => isField_of_mem_fields
  unfold ofLine? at h
  split at h
  · next first kind label details hfields =>
      rw [hfields] at hfield
      rw [Option.some.injEq] at h
      subst h
      have hkind : IsField kind := hfield kind (by simp)
      have hlabel : IsField label := hfield label (by simp)
      refine ⟨fun c hc => hkind.blank c ?_, fun c hc => hlabel.blank c ?_, details, ?_, rfl⟩
      · exact ((withoutLast_sublist _ _).trans (withoutFirst_sublist _ _)).subset hc
      · exact (withoutLast_sublist _ _).subset hc
      · exact fun w hw => hfield w (by simp [hw])
  · simp at h

theorem isRecord_of_mem_records {t : Text} {u : Uniform} (h : u ∈ records t) : IsRecord u := by
  obtain ⟨before, line, after, -, hline, -⟩ := exists_declaration_of_mem_records h
  exact isRecord_of_ofLine? hline

end Records

section Plain

variable {u : Uniform}

/-- Whether a character stands in a line that is made of fields and single spaces. -/
def isPlain (c : Char) : Bool := c = ' ' || !isBlank c

theorem isPlain_of_not_isBlank {c : Char} (h : isBlank c = false) : isPlain c = true := by
  simp [isPlain, h]

theorem isPlain_intercalate {ws : List Text} (h : ∀ w ∈ ws, IsField w) :
    ∀ c ∈ List.intercalate [' '] ws, isPlain c = true := by
  induction ws with
  | nil => simp
  | cons first rest ih =>
      have hfirst : ∀ c ∈ first, isPlain c = true := fun c hc =>
        isPlain_of_not_isBlank ((h first (by simp)).blank c hc)
      have hrest := ih fun w hw => h w (by simp [hw])
      cases rest with
      | nil => simpa using hfirst
      | cons second rest =>
          intro c hc
          rw [List.intercalate_cons_cons, List.mem_append, List.mem_append] at hc
          rcases hc with (hc | hc) | hc
          · exact hfirst c hc
          · rw [List.mem_singleton.mp hc]
            rfl
          · exact hrest c hc

theorem IsRecord.isPlain_kind (h : IsRecord u) : ∀ c ∈ u.kind, isPlain c = true :=
  fun c hc => isPlain_of_not_isBlank (h.kind c hc)

theorem IsRecord.isPlain_label (h : IsRecord u) : ∀ c ∈ u.label, isPlain c = true :=
  fun c hc => isPlain_of_not_isBlank (h.label c hc)

theorem IsRecord.isPlain_detail (h : IsRecord u) : ∀ c ∈ u.detail, isPlain c = true := by
  obtain ⟨ws, hws, hdetail⟩ := h.detail
  rw [hdetail]
  exact isPlain_intercalate hws

/-- A text of such characters is a single line. -/
theorem line_of_isPlain {t : Text} (h : ∀ c ∈ t, isPlain c = true) :
    '\n' ∉ t ∧ t.getLast? ≠ some '\r' := by
  constructor
  · intro hfeed
    exact absurd (h _ hfeed) (by decide)
  · intro hreturn
    exact absurd (h _ (List.mem_of_getLast? hreturn)) (by decide)

end Plain

end ShaderTools.Proofs.UniformRecords
