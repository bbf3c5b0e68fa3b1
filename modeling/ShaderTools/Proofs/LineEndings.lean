import ShaderTools.Uniform.Listing
import ShaderTools.Proofs.TextPieces

/-!
The endings of lines. Where a text has no carriage return of its own, it does not matter before
which of its line feeds one is put: the lines are the same, and so is all that a listing gives.
-/

namespace ShaderTools.Proofs.LineEndings

open ShaderTools.Text
open ShaderTools.Listing
open ShaderTools.Proofs.TextPieces

/-- The text with a carriage return before each line feed. -/
def withReturns (t : Text) : Text := t.flatMap fun c => if c = '\n' then ['\r', '\n'] else [c]

/-- The second text is the first one with a carriage return before some of the line feeds. -/
inductive AddsReturns : Text → Text → Prop
  | nil : AddsReturns [] []
  | char {c : Char} {t t' : Text} (hc : c ≠ '\n') (h : AddsReturns t t') :
      AddsReturns (c :: t) (c :: t')
  | feed {t t' : Text} (h : AddsReturns t t') : AddsReturns ('\n' :: t) ('\n' :: t')
  | returnFeed {t t' : Text} (h : AddsReturns t t') : AddsReturns ('\n' :: t) ('\r' :: '\n' :: t')

theorem addsReturns_withReturns (t : Text) : AddsReturns t (withReturns t) := by
  induction t with
  | nil => exact .nil
  | cons c rest ih =>
      rw [withReturns, List.flatMap_cons]
      by_cases hc : c = '\n'
      · subst hc
        exact .returnFeed ih
      · rw [if_neg hc]
        exact .char hc ih

theorem lines_addsReturns {t t' : Text} (h : AddsReturns t t') (hreturn : '\r' ∉ t) :
    lines t' = lines t := by
  rw [lines_eq_linePieces, lines_eq_linePieces]
  induction h with
  | nil => rfl
  | @char c t t' hc h ih =>
      obtain ⟨hmark, hrest⟩ := List.ne_and_not_mem_of_not_mem_cons hreturn
      have hpair : ∀ rest : Text, c = '\r' → rest.head? ≠ some '\n' :=
        fun _ hc => absurd hc.symm hmark
      rw [linePieces_cons hc (hpair t'), linePieces_cons hc (hpair t), ih hrest]
  | @feed t t' h ih =>
      rw [linePieces_lineFeed, linePieces_lineFeed, ih (List.not_mem_of_not_mem_cons hreturn)]
  | @returnFeed t t' h ih =>
      rw [linePieces_carriageReturn_lineFeed, linePieces_lineFeed,
        ih (List.not_mem_of_not_mem_cons hreturn)]

theorem ofText_addsReturns {t t' : Text} (h : AddsReturns t t') (hreturn : '\r' ∉ t) :
    ofText t' = ofText t := by
  rw [ofText, ofText, lines_addsReturns h hreturn]

/-- A text without carriage returns gives the same items, call by call, if one is put before each of
its line feeds, and also if one is put before some of them only. -/
theorem items_lineEndings {t : Text} (hreturn : '\r' ∉ t) :
    itemsOfText (withReturns t) = itemsOfText t ∧
      ∀ t', AddsReturns t t' → itemsOfText t' = itemsOfText t ∧
        ∀ calls, results calls (ofText t') = results calls (ofText t) := by
  have hsame : ∀ t', AddsReturns t t' → itemsOfText t' = itemsOfText t ∧
      ∀ calls, results calls (ofText t') = results calls (ofText t) := by
    intro t' h
    rw [itemsOfText, itemsOfText, ofText_addsReturns h hreturn]
    exact ⟨rfl, fun _ => rfl⟩
  exact ⟨(hsame _ (addsReturns_withReturns t)).1, hsame⟩

/-- A listing whose last line is malformed and has no ending. -/
def unended : Text := "//\n\n uniform <int> a; \nuniform b ".toList

theorem items_lineEndings_unended : '\r' ∉ unended ∧ itemsOfText (withReturns unended) =
    [.ok ⟨['a'], "int".toList, []⟩, .error (.malformed 4 "uniform b ".toList)] := by
  have hreturn : '\r' ∉ unended := by decide
  refine ⟨hreturn, (items_lineEndings hreturn).1.trans ?_⟩
  decide +kernel

/-- A carriage return of the text's own is told from the one before a line feed. -/
example : itemsOfText (withReturns "uniform\r\n".toList) ≠ itemsOfText "uniform\r\n".toList := by
  decide +kernel

end ShaderTools.Proofs.LineEndings
