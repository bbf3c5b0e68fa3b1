import ShaderTools.Proofs.UniformRecords

/-!
Words with blanks around them. A line is its words and the blanks before, between and behind them,
in one way only, and all that a listing reads from a line is decided by those words: whether it is a
declaration, which trims the line and looks at its start, and which uniform it declares, which takes
the line apart.
-/

namespace ShaderTools.Proofs.SpacedWords

open ShaderTools.Text
open ShaderTools.Uniform
open ShaderTools.Listing
open ShaderTools.Proofs.TextPieces
open ShaderTools.Proofs.ListingResults
open ShaderTools.Proofs.UniformRecords

/-- The text is the words, in order, with blanks around them and between any two of them. -/
inductive Spaced : List Text → Text → Prop
  | blanks {gap : Text} (hgap : ∀ c ∈ gap, isBlank c = true) : Spaced [] gap
  | word {gap w rest : Text} {ws : List Text} (hgap : ∀ c ∈ gap, isBlank c = true)
      (hword : IsField w) (hend : ∀ c ∈ rest.head?, isBlank c = true) (hrest : Spaced ws rest) :
      Spaced (w :: ws) (gap ++ (w ++ rest))

section Spacing

variable {c : Char} {t : Text} {ws : List Text}

theorem fields_blanks_append {gap : Text} (hgap : ∀ c ∈ gap, isBlank c = true) (t : Text) :
    (gap ++ t).fields = t.fields := by
  rw [fields, ← words_dropWhile, List.dropWhile_append_of_pos hgap, words_dropWhile, fields]

theorem fields_word_append {w rest : Text} (hword : IsField w)
    (hend : ∀ c ∈ rest.head?, isBlank c = true) : (w ++ rest).fields = w :: rest.fields := by
  cases rest with
  | nil =>
      rw [List.append_nil]
      exact fields_eq_singleton hword
  | cons c rest =>
      have hc : isBlank c = true := hend c rfl
      rw [fields, fields, words_append_separator hc, words_cons_of_isSeparator hc,
        words_eq_singleton hword.nonempty hword.blank]
      rfl

theorem fields_of_spaced (h : Spaced ws t) : t.fields = ws := by
  induction h with
  | @blanks gap hgap =>
      rw [← List.append_nil gap]
      exact fields_blanks_append hgap []
  | word hgap hword hend hrest ih =>
      rw [fields_blanks_append hgap, fields_word_append hword hend, ih]

theorem Spaced.behindBlank (hc : isBlank c = true) (h : Spaced ws t) : Spaced ws (c :: t) := by
  cases h with
  | blanks hgap => exact .blanks (List.forall_mem_cons.mpr ⟨hc, hgap⟩)
  | word hgap hword hend hrest =>
      exact .word (List.forall_mem_cons.mpr ⟨hc, hgap⟩) hword hend hrest

/-- A character in front of the first word belongs to it. -/
theorem Spaced.growFirst (hc : isBlank c = false) (hstart : startsWord isBlank t = true)
    (h : Spaced ws t) : Spaced (growFirst c ws) (c :: t) := by
  -- where the text starts with a word, no blank stands before it
  cases h with
  | blanks hgap =>
      cases t with
      | nil => simp [startsWord] at hstart
      | cons d rest => simp [startsWord, hgap d (by simp)] at hstart
  | @word gap w rest ws hgap hword hend hrest =>
      cases gap with
      | nil =>
          have hgrown : IsField (c :: w) :=
            ⟨by simp, List.forall_mem_cons.mpr ⟨hc, hword.blank⟩⟩
          exact .word hgap hgrown hend hrest
      | cons d gap => simp [startsWord, hgap d (by simp)] at hstart

/-- A character that no word stands behind is a word of its own. -/
theorem Spaced.behindLetter (hc : isBlank c = false) (hstart : startsWord isBlank t = false)
    (h : Spaced ws t) : Spaced ([c] :: ws) (c :: t) := by
  have hend : ∀ d ∈ t.head?, isBlank d = true := by
    cases t with
    | nil => simp
    | cons d rest => simpa [startsWord] using hstart
  exact .word (List.forall_mem_nil _) ⟨by simp, by simpa using hc⟩ hend h

theorem spaced_fields (t : Text) : Spaced t.fields t := by
  rw [fields]
  fun_induction words isBlank t with
  | case1 => exact .blanks (List.forall_mem_nil _)
  | case2 c rest hc ih => exact ih.behindBlank hc
  | case3 c rest hc hstart ih => exact ih.growFirst (by simpa using hc) hstart
  | case4 c rest hc hstart ih => exact ih.behindLetter (by simpa using hc) (by simpa using hstart)

theorem spaced_iff : Spaced ws t ↔ t.fields = ws := by
  constructor
  · exact fields_of_spaced
  · rintro rfl
    exact spaced_fields t

end Spacing

section Reading

variable {seen : List Text} {passed : Nat} {line : Text} {rest : List Text}

theorem isDeclaredBy_iff (line : Text) : isDeclaredBy line = true ↔
    ∃ first others, line.fields = first :: others ∧ keyword <+: first := by
  rw [isDeclaredBy_eq_isCandidate, isCandidate]
  cases line.fields with
  | nil => simp
  | cons first others => simp

theorem fields_ne_nil (h : isDeclaredBy line = true) : line.fields ≠ [] := by
  obtain ⟨first, others, hfields, -⟩ := (isDeclaredBy_iff line).mp h
  rw [hfields]
  exact List.cons_ne_nil first others

theorem ofLine?_eq_none_iff_of_isDeclaredBy (h : isDeclaredBy line = true) :
    ofLine? line = none ↔ line.fields.length = 1 ∨ line.fields.length = 2 := by
  have hpositive : 0 < line.fields.length := List.length_pos_iff.mpr (fields_ne_nil h)
  rw [ofLine?_eq_none_iff, isWhole, decide_eq_false_iff_not]
  omega

/-- A line that is told to be malformed comes behind those that were passed. -/
theorem lt_of_malformed_mem {number : Nat} {content : Text} {ls : List Text}
    (h : .error (.malformed number content) ∈ itemsFrom seen passed ls) : passed < number := by
  fun_induction itemsFrom seen passed ls with
  | case1 seen passed => simp at h
  | case2 seen passed line rest hdeclared hrecord =>
      obtain ⟨rfl, -⟩ : number = passed + 1 ∧ content = line := by simpa using h
      exact Nat.lt_succ_self passed
  | case3 seen passed line rest hdeclared u hrecord hseen ih => exact Nat.lt_of_succ_lt (ih h)
  | case4 seen passed line rest hdeclared u hrecord hfresh ih =>
      rw [List.mem_cons] at h
      exact Nat.lt_of_succ_lt (ih (h.resolve_left (by simp)))
  | case5 seen passed line rest hdeclared ih => exact Nat.lt_of_succ_lt (ih h)

/-- A listing ends at its next line if and only if that is a declaration of no uniform. -/
theorem next_eq_malformed_iff :
    (next ⟨line :: rest, passed, seen, false⟩).1 = some (.error (.malformed (passed + 1) line)) ↔
      isDeclaredBy line = true ∧ ofLine? line = none := by
  -- a line that is passed over is not told of later either, even if it stands there once more
  have hlater : (itemsFrom seen (passed + 1) rest).head? ≠
      some (.error (.malformed (passed + 1) line)) := by
    intro h
    exact absurd (lt_of_malformed_mem (List.mem_of_head? h)) (Nat.lt_irrefl _)
  have hnext : (next ⟨line :: rest, passed, seen, false⟩).1 =
      (itemsFrom seen passed (line :: rest)).head? := (next_remaining _).1
  rw [hnext]
  cases hdeclared : isDeclaredBy line with
  | false => simpa [itemsFrom_of_not_declared hdeclared] using hlater
  | true =>
      cases hrecord : ofLine? line with
      | none => simp [itemsFrom_of_malformed hdeclared hrecord]
      | some u =>
          rcases Decidable.em (u.label ∈ seen) with hold | hfresh
          · simpa [itemsFrom_of_seen hdeclared hrecord hold] using hlater
          · simp [itemsFrom_of_fresh hdeclared hrecord hfresh]

theorem isDeclaredBy_eq_of_fields_eq {line' : Text} (h : line'.fields = line.fields) :
    isDeclaredBy line' = isDeclaredBy line := by
  rw [Bool.eq_iff_iff, isDeclaredBy_iff, isDeclaredBy_iff, h]

theorem ofLine?_eq_of_fields_eq {line' : Text} (h : line'.fields = line.fields) :
    ofLine? line' = ofLine? line := by
  rw [ofLine?, ofLine?, h]

end Reading

/-- The fields of a line are the words that it is made of. It is a declaration if and only if there
is a first one and that one starts with the keyword; a declaration has a field, and it declares no
uniform, so that a listing ends there, exactly if it has one or two. Lines that are made of the same
words, with whatever blanks, are both declarations or neither is one, and declare the same. -/
theorem words_decide (line : Text) :
    (∀ ws, Spaced ws line ↔ line.fields = ws) ∧
      (isDeclaredBy line = true ↔
        ∃ first others, line.fields = first :: others ∧ keyword <+: first) ∧
      (isDeclaredBy line = true → line.fields ≠ [] ∧
        (ofLine? line = none ↔ line.fields.length = 1 ∨ line.fields.length = 2)) ∧
      (∀ seen passed rest,
        (next ⟨line :: rest, passed, seen, false⟩).1 =
            some (.error (.malformed (passed + 1) line)) ↔
          isDeclaredBy line = true ∧ (line.fields.length = 1 ∨ line.fields.length = 2)) ∧
      ∀ ws line', Spaced ws line → Spaced ws line' →
        isDeclaredBy line' = isDeclaredBy line ∧ ofLine? line' = ofLine? line := by
  refine ⟨fun ws => spaced_iff, isDeclaredBy_iff line, ?_, ?_, ?_⟩
  · intro hdeclared
    exact ⟨fields_ne_nil hdeclared, ofLine?_eq_none_iff_of_isDeclaredBy hdeclared⟩
  · intro seen passed rest
    rw [next_eq_malformed_iff]
    exact and_congr_right ofLine?_eq_none_iff_of_isDeclaredBy
  · intro ws line' hline hline'
    have hfields : line'.fields = line.fields :=
      (fields_of_spaced hline').trans (fields_of_spaced hline).symm
    exact ⟨isDeclaredBy_eq_of_fields_eq hfields, ofLine?_eq_of_fields_eq hfields⟩

/-- A declaration with a wide space, a no-break space and a line separator among its blanks. -/
def scattered : Text := "\u3000uniform\u00a0<vec2>\tsize;\u2028 2 \u0085".toList

def single : Text := "uniform <vec2> size; 2".toList

theorem words_decide_scattered :
    Spaced ["uniform".toList, "<vec2>".toList, "size;".toList, ['2']] scattered ∧
      isDeclaredBy scattered = true ∧ scattered.fields ≠ [] ∧
      isDeclaredBy single = isDeclaredBy scattered ∧ ofLine? single = ofLine? scattered := by
  have hscattered := ((words_decide scattered).1
    ["uniform".toList, "<vec2>".toList, "size;".toList, ['2']]).mpr (by decide +kernel)
  have hsingle := ((words_decide single).1
    ["uniform".toList, "<vec2>".toList, "size;".toList, ['2']]).mpr (by decide +kernel)
  have hdeclared : isDeclaredBy scattered = true := by decide +kernel
  obtain ⟨-, -, hread, -, hsame⟩ := words_decide scattered
  exact ⟨hscattered, hdeclared, (hread hdeclared).1, hsame _ _ hscattered hsingle⟩

/-- The keyword need not be all of the first word. -/
example : isDeclaredBy "\tuniformity\u2003x".toList = true ∧
    ofLine? "\tuniformity\u2003x".toList = none := by
  decide +kernel

end ShaderTools.Proofs.SpacedWords
