import ShaderTools.Proofs.SnippetOutputs
import ShaderTools.Proofs.UniformRecords

/-!
Uniforms that are written as declarations. A uniform comes from a line if and only if its name and
its type are without blanks and its detail is words with single spaces between them; each such
uniform is read back from its declaration. So what a listing gives is given again by the listing of
its declarations.
-/

namespace ShaderTools.Proofs.WrittenDeclarations

open ShaderTools.Text
open ShaderTools.Uniform
open ShaderTools.Listing
open ShaderTools.Proofs.TextPieces
open ShaderTools.Proofs.ListingResults
open ShaderTools.Proofs.SnippetOutputs
open ShaderTools.Proofs.UniformRecords

section Declarations

variable {u : Uniform}

theorem declaration_eq (u : Uniform) :
    u.declaration = keyword ++ ' ' :: ('<' :: (u.kind ++ ['>']) ++ ' ' :: (u.label ++ [';']
      ++ ' ' :: u.detail)) := by
  simp [declaration]

/-- The fields of a declaration: the keyword, the type in its brackets, the name with its
semicolon, and the words of the detail. -/
theorem fields_declaration (h : IsRecord u) :
    u.declaration.fields =
      keyword :: ('<' :: (u.kind ++ ['>'])) :: (u.label ++ [';']) :: u.detail.fields := by
  have hkeyword : keyword.fields = [keyword] := by decide
  have hmarks : isBlank '<' = false ∧ isBlank '>' = false ∧ isBlank ';' = false := by decide
  have hkind : IsField ('<' :: (u.kind ++ ['>'])) := by
    refine ⟨by simp, ?_⟩
    simpa [hmarks, or_imp, forall_and] using h.kind
  have hlabel : IsField (u.label ++ [';']) := by
    refine ⟨by simp, ?_⟩
    simpa [hmarks, or_imp, forall_and] using h.label
  rw [declaration_eq, fields_append_space, fields_append_space, fields_append_space, hkeyword,
    fields_eq_singleton hkind, fields_eq_singleton hlabel]
  rfl

theorem ofLine?_declaration (h : IsRecord u) : ofLine? u.declaration = some u := by
  obtain ⟨ws, hws, hdetail⟩ := h.detail
  have hkind : withoutLast '>' (withoutFirst '<' ('<' :: (u.kind ++ ['>']))) = u.kind := by
    rw [withoutFirst, if_pos rfl, withoutLast_concat]
  have hfields := fields_declaration h
  rw [hdetail, fields_intercalate hws] at hfields
  simp only [ofLine?, hfields, hkind, withoutLast_concat, ← hdetail]

theorem exists_ofLine?_iff (u : Uniform) : (∃ line, ofLine? line = some u) ↔ IsRecord u := by
  constructor
  · rintro ⟨line, hline⟩
    exact isRecord_of_ofLine? hline
  · intro h
    exact ⟨u.declaration, ofLine?_declaration h⟩

theorem isDeclaredBy_declaration (h : IsRecord u) : isDeclaredBy u.declaration = true := by
  have hself : keyword.isPrefixOf keyword = true := by decide
  rw [isDeclaredBy_eq_isCandidate, isCandidate, fields_declaration h]
  exact hself

theorem isPlain_declaration (h : IsRecord u) : ∀ c ∈ u.declaration, isPlain c = true := by
  have hmarks : keyword.all isPlain = true ∧ " <".toList.all isPlain = true ∧
      "> ".toList.all isPlain = true ∧ "; ".toList.all isPlain = true := by
    decide
  simp only [List.all_eq_true] at hmarks
  obtain ⟨hkeyword, hopen, hclose, hend⟩ := hmarks
  simp only [declaration, List.forall_mem_append]
  exact ⟨⟨⟨⟨⟨⟨hkeyword, hopen⟩, h.isPlain_kind⟩, hclose⟩, h.isPlain_label⟩, hend⟩,
    h.isPlain_detail⟩

end Declarations

section Listings

/-- Uniforms as a listing of their declarations. -/
def listing (us : List Uniform) : Text := us.flatMap fun u => u.declaration ++ ['\n']

variable {us : List Uniform}

theorem lines_listing (h : ∀ u ∈ us, IsRecord u) : (listing us).lines = us.map declaration := by
  have hline : ∀ line ∈ us.map declaration, '\n' ∉ line ∧ line.getLast? ≠ some '\r' := by
    rw [List.forall_mem_map]
    exact fun u hu => line_of_isPlain (isPlain_declaration (h u hu))
  have hlines := linePieces_flatMap hline
  rw [List.flatMap_map] at hlines
  rw [lines_eq_linePieces]
  exact hlines

/-- Declarations of different names are read as the uniforms that they declare. -/
theorem itemsFrom_declarations (h : ∀ u ∈ us, IsRecord u) (hnodup : (us.map label).Nodup)
    {seen : List Text} (hfresh : ∀ u ∈ us, u.label ∉ seen) (passed : Nat) :
    itemsFrom seen passed (us.map declaration) = us.map .ok := by
  induction us generalizing seen passed with
  | nil => rfl
  | cons u us ih =>
      have hu := h u (by simp)
      rw [List.map_cons, List.nodup_cons] at hnodup
      rw [List.map_cons, itemsFrom_of_fresh (isDeclaredBy_declaration hu) (ofLine?_declaration hu)
        (hfresh u (by simp)), ih (fun v hv => h v (by simp [hv])) hnodup.2, List.map_cons]
      intro v hv
      rw [List.mem_cons, not_or]
      exact ⟨fun hsame => hnodup.1 (hsame ▸ List.mem_map_of_mem hv), hfresh v (by simp [hv])⟩

/-- A text whose lines are the declarations of the uniforms of a listing gives them again. -/
theorem itemsOfText_of_lines_eq {t t' : Text} (h : t'.lines = (records t).map declaration) :
    itemsOfText t' = (records t).map .ok := by
  rw [itemsOfText_eq_itemsFrom, h]
  exact itemsFrom_declarations (fun u => isRecord_of_mem_records) (nodup_records t) (by simp) 0

end Listings

/-- The uniforms of lines are those whose type and name are without blanks and whose detail is words
with single spaces between them, and each is the one of its declaration. What a listing without a
malformed line gives, its declarations give again, in whatever way their lines are ended. -/
theorem declarations_read_back :
    (∀ u, ((∃ line, ofLine? line = some u) ↔ IsRecord u) ∧
      (IsRecord u → '\n' ∉ u.declaration ∧ isDeclaredBy u.declaration = true ∧
        ofLine? u.declaration = some u)) ∧
      ∀ t, AllWhole (linePieces t) →
        ∃ us, itemsOfText t = us.map .ok ∧ itemsOfText (listing us) = itemsOfText t ∧
          ∀ t' : Text, t'.lines = us.map declaration → itemsOfText t' = itemsOfText t := by
  constructor
  · intro u
    refine ⟨exists_ofLine?_iff u, fun h => ?_⟩
    exact ⟨(line_of_isPlain (isPlain_declaration h)).1, isDeclaredBy_declaration h,
      ofLine?_declaration h⟩
  · intro t hall
    have hitems : itemsOfText t = (records t).map .ok :=
      (itemsOfText_eq t).trans (given_of_allWhole hall)
    have hlisting := lines_listing fun u (hu : u ∈ records t) => isRecord_of_mem_records hu
    refine ⟨records t, hitems, ?_, ?_⟩
    · rw [hitems, itemsOfText_of_lines_eq hlisting]
    · intro t' ht'
      rw [hitems, itemsOfText_of_lines_eq ht']

/-- A listing with more brackets and semicolons than are taken off, or with nothing else. -/
def marked : Text :=
  "uniform <<x>> a;; in  px\nvec2 uv;\nuniform <> ; of\tno name\n\nuniform < a;; again".toList

theorem declarations_read_back_marked :
    AllWhole (linePieces marked) ∧
      itemsOfText (listing [⟨"a;".toList, "<x>".toList, "in px".toList⟩,
        ⟨[], [], "of no name".toList⟩]) = itemsOfText marked := by
  have hall : AllWhole (linePieces marked) := by
    unfold AllWhole
    decide +kernel
  have hitems : itemsOfText marked = List.map .ok [⟨"a;".toList, "<x>".toList, "in px".toList⟩,
      ⟨[], [], "of no name".toList⟩] := by
    decide +kernel
  obtain ⟨us, hus, hlisting, -⟩ := declarations_read_back.2 marked hall
  obtain rfl := List.map_injective_iff.mpr (fun _ _ => Except.ok.inj) (hitems.symm.trans hus)
  exact ⟨hall, hlisting⟩

end ShaderTools.Proofs.WrittenDeclarations
