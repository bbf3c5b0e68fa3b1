import ShaderTools.Proofs.EncodedTexts
import ShaderTools.Proofs.SnippetOutputs

/-!
The array that is printed of uniforms. Whatever texts they hold, the bytes are a JSON document with
a line feed behind it, and the document is read as one object for each uniform, in order.
-/

namespace ShaderTools.Proofs.SnippetArrays

open ShaderTools.Proofs.EncodedTexts
open ShaderTools.Proofs.JsonReading
open ShaderTools.Proofs.JsonSpellings
open ShaderTools.Proofs.SnippetOutputs

/-- The value of a JSON document in UTF-8. -/
def documentValue? (bytes : Bytes) : Option Json := (Text.Utf8.decode? bytes).bind decode?

/-- Bytes that spell one value and no other, in UTF-8, and are read as that value. -/
structure IsDocument (bytes : Bytes) (v : Json) : Prop where
  spells : ∃ t, Text.Utf8.decode? bytes = some t ∧ ∀ other, Spells t other ↔ other = v
  read : documentValue? bytes = some v

theorem isDocument_encode {t : Text} {v : Json} (h : Spells t v) :
    IsDocument (Text.Utf8.encode t) v := by
  refine ⟨⟨t, decode?_encode t, fun other => ⟨fun hother => ?_, fun hother => hother ▸ h⟩⟩, ?_⟩
  · have hread := h.decode?_eq
    rw [hother.decode?_eq] at hread
    exact Option.some.inj hread
  · rw [documentValue?, decode?_encode]
    exact h.decode?_eq

/-- The type of a uniform in angle brackets, and behind a space its detail, if it has one. -/
def typeAndDetail (u : Uniform) : Text :=
  ['<'] ++ u.kind ++ ['>'] ++ if u.detail = [] then [] else [' '] ++ u.detail

theorem shownDetail_eq (u : Uniform) : u.shownDetail = typeAndDetail u := by
  unfold Uniform.shownDetail typeAndDetail
  by_cases hdetail : u.detail = [] <;> simp [hdetail]

/-- What is printed of uniforms is a document and a line feed: an array of as many objects, each
with the label and the detail of its uniform, and with nothing else. -/
theorem printArray_document (us : List Uniform) (w : World) :
    ∃ written document items,
      (Program.printArray (us.map .ok)).run w = (0, w.write .output written) ∧
      Text.Utf8.encode written = document ++ [0x0a] ∧ IsDocument document (.array items) ∧
      items.length = us.length ∧
      ∀ (i : Nat) (u : Uniform), us[i]? = some u →
        items[i]? = some (.object
          [("label".toList, .string u.label), ("detail".toList, .string (typeAndDetail u))]) := by
  have hspells : Spells ((labelsAndDetails us).pretty 0) (labelsAndDetails us) :=
    (textual_labelsAndDetails us).spells_pretty 0
  refine ⟨snippetsText us, Text.Utf8.encode ((labelsAndDetails us).pretty 0), _,
    run_printArray us w, ?_, isDocument_encode hspells, List.length_map _, ?_⟩
  · exact encode_append _ ['\n']
  · intro i u hu
    rw [List.getElem?_map, hu, ← shownDetail_eq]
    rfl

end ShaderTools.Proofs.SnippetArrays
