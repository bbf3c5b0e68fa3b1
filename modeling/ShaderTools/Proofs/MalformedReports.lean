import ShaderTools.Proofs.QuotedTexts
import ShaderTools.Proofs.SnippetOutputs

/-!
Reports of malformed lines. A report is a single line without hidden characters, whatever the
malformed line holds, and tells the number and the content of that line and of no other.
-/

namespace ShaderTools.Proofs.MalformedReports

open ShaderTools.Text
open ShaderTools.Listing
open ShaderTools.Proofs.DecimalNumerals
open ShaderTools.Proofs.ListingResults
open ShaderTools.Proofs.QuotedTexts
open ShaderTools.Proofs.SnippetOutputs
open ShaderTools.Proofs.TextPieces

def reportStart : Text := "Malformed uniform declaration on line ".toList

/-- The number and the content of the line that a report tells of. -/
def told? (report : Text) : Option (Nat × Text) :=
  match cut ':' (report.drop reportStart.length) with
  | (numeral, some (_ :: quoted)) => do return (← digitsValue? numeral, ← unquote quoted)
  | _ => none

section Messages

variable (line : Nat) (content : Text)

theorem message_malformed : (Error.malformed line content).message =
    reportStart ++ (Text.ofNat line ++ ':' :: ' ' :: content.quote) := by
  have hmarks : ": ".toList = [':', ' '] := by decide
  have hmessage : (Error.malformed line content).message =
      reportStart ++ Text.ofNat line ++ ": ".toList ++ content.quote := rfl
  rw [hmessage, hmarks, List.append_assoc, List.append_assoc]
  rfl

theorem colon_notMem_ofNat : ':' ∉ Text.ofNat line := by
  rw [ofNat_eq_toDigits]
  intro hcolon
  exact absurd ((isDigits_toDigits line).digits _ hcolon) (by decide)

theorem told?_message : told? (Error.malformed line content).message = some (line, content) := by
  rw [told?, message_malformed, List.drop_left, cut_append (colon_notMem_ofNat line)]
  simp [digitsValue?_ofNat, unquote_quote]

theorem isVisible_message : IsVisible (Error.malformed line content).message := by
  have hstart : IsVisible reportStart := isVisible_of_isBasic (by decide)
  have hmarks : IsVisible [':', ' '] := isVisible_of_isBasic (by decide)
  have hnumeral : IsVisible (Text.ofNat line) := isVisible_numeral (by decide) (by decide) line
  rw [message_malformed]
  change IsVisible (reportStart ++ (Text.ofNat line ++ ([':', ' '] ++ content.quote)))
  rw [isVisible_append, isVisible_append, isVisible_append]
  exact ⟨hstart, hnumeral, hmarks, isVisible_quote content⟩

theorem lines_of_isVisible {t : Text} (hne : t ≠ []) (h : IsVisible t) : t.lines = [t] := by
  have hfeed : split (· = '\n') t = [t] := by
    refine split_eq_singleton fun c hc => decide_eq_false ?_
    rintro rfl
    exact absurd (not_isControl_of_isVisible h _ hc) (by decide)
  rw [lines_eq_linePieces, linePieces, hfeed]
  simp [hne]

end Messages

section Listings

variable {t : Text}

/-- An error of a listing is about the line that it tells of. -/
theorem malformed_of_mem {e : Error} (h : .error e ∈ itemsOfText t) :
    ∃ line content, e = .malformed (line + 1) content ∧ t.lines[line]? = some content := by
  rw [itemsOfText_eq, given, List.mem_append] at h
  rcases h with hrecord | hstop
  · simp at hrecord
  · obtain ⟨⟨content, number⟩, hcandidate, hitem⟩ := List.mem_map.mp hstop
    have hnumbered := List.mem_of_find?_eq_some (Option.mem_toList.mp hcandidate)
    have hline := (List.mem_filter.mp hnumbered).1
    rw [List.mk_mem_zipIdx_iff_le_and_getElem?_sub] at hline
    obtain ⟨hpositive, hline⟩ := hline
    refine ⟨number - 1, content, ?_, ?_⟩
    · rw [Nat.sub_add_cancel hpositive]
      exact (Except.error.inj hitem).symm
    · rw [lines_eq_linePieces]
      exact hline

/-- The report of a malformed line is a single line without controls and other hidden characters.
The number of that line and its content are read back from it, and no other malformed line of any
listing is reported in the same words. -/
theorem report_tells {e : Error} (h : .error e ∈ itemsOfText t) :
    ∃ line content, e = .malformed (line + 1) content ∧ t.lines[line]? = some content ∧
      e.message.lines = [e.message] ∧
      (∀ c ∈ e.message, isControl c = false ∧ isHidden c = false) ∧
      told? e.message = some (line + 1, content) ∧
      ∀ t' line' content', .error (.malformed line' content') ∈ itemsOfText t' →
        (Error.malformed line' content').message = e.message →
          line' = line + 1 ∧ content' = content := by
  obtain ⟨line, content, rfl, hline⟩ := malformed_of_mem h
  have hvisible := isVisible_message (line + 1) content
  have hne : (Error.malformed (line + 1) content).message ≠ [] := by
    rw [message_malformed]
    exact List.append_ne_nil_of_left_ne_nil (by decide) _
  refine ⟨line, content, rfl, hline, lines_of_isVisible hne hvisible, ?_,
    told?_message (line + 1) content, ?_⟩
  · exact fun c hc => ⟨not_isControl_of_isVisible hvisible c hc, hvisible c hc⟩
  · intro t' line' content' _ hmessage
    have htold := told?_message line' content'
    rw [hmessage, told?_message, Option.some.injEq, Prod.mk.injEq] at htold
    exact ⟨htold.1.symm, htold.2.symm⟩

/-- A malformed line that imitates the end of a report and holds an escape character. -/
def imitation : Text := "uniform \"\\n2:\x1b".toList

theorem report_tells_imitation :
    .error (.malformed 2 imitation) ∈ itemsOfText ('\n' :: imitation) ∧
      told? (Error.malformed 2 imitation).message = some (2, imitation) := by
  have h : .error (.malformed 2 imitation) ∈ itemsOfText ('\n' :: imitation) := by
    decide +kernel
  obtain ⟨line, content, herror, -, -, -, htold, -⟩ := report_tells h
  cases herror
  exact ⟨h, htold⟩

end Listings

end ShaderTools.Proofs.MalformedReports
