import ShaderTools.Proofs.ObjectLiterals
import ShaderTools.Proofs.SnippetBlocks

/-!
The blocks of uniforms as object literals. Between the quotes of a block stand the name and the
shown detail of a uniform as they are. The block, less its comma, is thus the literal of an object
with these two texts if neither of them has a quote or a backslash, and with any other it is not;
the snippet in an array has them in all cases.
-/

namespace ShaderTools.Proofs.SnippetLiterals

open ShaderTools.Uniform
open ShaderTools.Proofs.JsonReading (decode?)
open ShaderTools.Proofs.ObjectLiterals
open ShaderTools.Proofs.SnippetBlocks
open ShaderTools.Proofs.SnippetOutputs
open ShaderTools.Proofs.UniformRecords

section Literals

/-- Two texts between the quotes of a block. -/
def literal (label detail : Text) : Text :=
  "\x7b\n\tlabel: '".toList ++ (label ++ ['\'']) ++ ",\n\tdetail: '".toList ++ (detail ++ ['\''])
    ++ "\n\x7d".toList

/-- The properties that a block is to have. -/
def properties (label detail : Text) : List (Text × Text) :=
  [("label".toList, label), ("detail".toList, detail)]

variable {s s' : State} {label detail : Text}

theorem reads_opening : Reads ⟨.start, []⟩ "\x7b\n\tlabel: '".toList
    ⟨.string "label".toList ⟨.plain, []⟩, []⟩ := rfl

theorem reads_middle (members : List (Text × List Nat)) :
    Reads ⟨.comma, members⟩ ",\n\tdetail: '".toList
      ⟨.string "detail".toList ⟨.plain, []⟩, members⟩ := rfl

theorem reads_closing (members : List (Text × List Nat)) :
    Reads ⟨.comma, members⟩ "\n\x7d".toList ⟨.done, members⟩ := rfl

/-- The end of a line is read behind a value only, as no string goes on behind it. -/
theorem of_reads_middle (h : Reads s ",\n\tdetail: '".toList s') :
    s.position = .comma ∧ s' = ⟨.string "detail".toList ⟨.plain, []⟩, s.members⟩ := by
  obtain ⟨position, members⟩ := s
  cases position with
  | comma =>
      cases h
      exact ⟨rfl, rfl⟩
  | string name q =>
      obtain ⟨inside, read⟩ := q
      cases inside <;> cases h
  | _ => cases h

theorem of_reads_closing (h : Reads s "\n\x7d".toList s') (hdone : s'.position = .done) :
    (∀ name q, s.position ≠ .string name q) ∧ s'.members = s.members := by
  obtain ⟨position, members⟩ := s
  cases position with
  | string name q =>
      obtain ⟨inside, read⟩ := q
      cases inside <;> cases h <;> cases hdone
  | _ => cases h <;> exact ⟨by simp, rfl⟩

theorem members?_literal (hlabel : IsSafe label ∧ IsOneLine label)
    (hdetail : IsSafe detail ∧ IsOneLine detail) :
    members? (literal label detail) =
      some [("label".toList, units label), ("detail".toList, units detail)] := by
  have hfirst : Reads ⟨.start, []⟩ ("\x7b\n\tlabel: '".toList ++ (label ++ ['\'']))
      ⟨.comma, [("label".toList, units label)]⟩ :=
    reads_opening.append (reads_quoted hlabel.1 hlabel.2)
  have hlast := (hfirst.append (reads_middle _)).append (reads_quoted hdetail.1 hdetail.2)
  exact members?_eq_some_iff.mpr (hlast.append (reads_closing _))

theorem safe_of_isLiteralOf (hlabel : IsOneLine label) (hdetail : IsOneLine detail)
    (h : IsLiteralOf (literal label detail) (properties label detail)) :
    IsSafe label ∧ IsSafe detail := by
  obtain ⟨members, hmembers, hvalue⟩ := h
  have hlabelValue : property? members "label".toList = some (units label) := hvalue _
  have hdetailValue : property? members "detail".toList = some (units detail) := hvalue _
  -- the two strings are what is read between the three fixed parts of the literal
  have hread := members?_eq_some_iff.mp hmembers
  obtain ⟨behindDetail, hread, hclosing⟩ := reads_append_iff.mp hread
  obtain ⟨atDetail, hread, hdetailRead⟩ := reads_append_iff.mp hread
  obtain ⟨behindLabel, hread, hmiddle⟩ := reads_append_iff.mp hread
  obtain ⟨atLabel, hopening, hlabelRead⟩ := reads_append_iff.mp hread
  obtain rfl := hopening.unique reads_opening
  obtain ⟨hcomma, rfl⟩ := of_reads_middle hmiddle
  obtain ⟨hended, rfl⟩ := of_reads_closing hclosing rfl
  have hdetailSafe := safe_of_property? hdetail hdetailRead hended hdetailValue
  obtain rfl := hdetailRead.unique (reads_quoted hdetailSafe hdetail)
  rw [property?_concat_of_ne (by decide)] at hlabelValue
  exact ⟨safe_of_property? hlabel hlabelRead (by simp [hcomma]) hlabelValue, hdetailSafe⟩

theorem isLiteralOf_iff (hlabel : IsOneLine label) (hdetail : IsOneLine detail) :
    IsLiteralOf (literal label detail) (properties label detail) ↔
      IsSafe label ∧ IsSafe detail := by
  constructor
  · exact safe_of_isLiteralOf hlabel hdetail
  · rintro ⟨hlabelSafe, hdetailSafe⟩
    refine ⟨_, members?_literal ⟨hlabelSafe, hlabel⟩ ⟨hdetailSafe, hdetail⟩, fun name => ?_⟩
    exact property?_pair (by decide) label detail name

end Literals

section Blocks

theorem block_eq_literal (u : Uniform) :
    u.block = literal u.label u.shownDetail ++ [','] := by
  have hmiddle : "',\n\tdetail: '".toList = ['\''] ++ ",\n\tdetail: '".toList := by decide
  have hclose : "'\n\x7d,".toList = ['\''] ++ "\n\x7d".toList ++ [','] := by decide
  unfold block literal
  simp only [hmiddle, hclose, List.append_assoc]

theorem isOneLine_of_isPlain {t : Text} (h : ∀ c ∈ t, isPlain c = true) : IsOneLine t := by
  intro c hc
  have hplain := h c hc
  constructor
  all_goals
    rintro rfl
    revert hplain
    decide

/-- The block of a uniform, less its comma, is the literal of an object with the label and the shown
detail for its two properties, exactly if neither text has a quote or a backslash. The snippet of a
uniform in an array is read as that object in all cases. -/
theorem block_literal_iff {line : Text} {u : Uniform} (h : ofLine? line = some u) :
    ∃ t, u.block = t ++ [','] ∧
      (IsLiteralOf t [("label".toList, u.label), ("detail".toList, u.shownDetail)] ↔
        ∀ c ∈ u.label ++ u.shownDetail, c ≠ '\'' ∧ c ≠ '\\') ∧
      ∃ written, snippetsText [u] = written ++ ['\n'] ∧
        decode? written = some (.array [.object
          [("label".toList, .string u.label), ("detail".toList, .string u.shownDetail)]]) := by
  have hrecord := isRecord_of_ofLine? h
  have hlabel := isOneLine_of_isPlain hrecord.isPlain_label
  have hdetail := isOneLine_of_isPlain (isPlain_shownDetail hrecord)
  refine ⟨literal u.label u.shownDetail, block_eq_literal u, ?_, decode?_snippets [u]⟩
  rw [List.forall_mem_append]
  exact isLiteralOf_iff hlabel hdetail

/-- A line with marks that a string may hold as they are, and with a character of two code units. -/
def markedLine : Text := "uniform <vec2> \"é\";  in\t`px` 😀".toList

theorem block_literal_iff_marked :
    ofLine? markedLine = some ⟨"\"é\"".toList, "vec2".toList, "in `px` 😀".toList⟩ ∧
      ∃ t, block ⟨"\"é\"".toList, "vec2".toList, "in `px` 😀".toList⟩ = t ++ [','] ∧
        IsLiteralOf t
          [("label".toList, "\"é\"".toList), ("detail".toList, "<vec2> in `px` 😀".toList)] := by
  have h : ofLine? markedLine = some ⟨"\"é\"".toList, "vec2".toList, "in `px` 😀".toList⟩ := by
    decide +kernel
  have hall : ("\"é\"<vec2> in `px` 😀".toList).all (fun c => c ≠ '\'' ∧ c ≠ '\\') = true := by
    decide
  obtain ⟨t, ht, hiff, -⟩ := block_literal_iff h
  exact ⟨h, t, ht, hiff.mpr fun c hc => of_decide_eq_true (List.all_eq_true.mp hall c hc)⟩

/-- With an apostrophe in its detail a block is no literal. With quotes in the label it may be that
of an object with another label, and with a backslash that of one with another detail. -/
theorem block_not_literal :
    (ofLine? "uniform <vec3> sunPosition; the sun's place".toList).map
        (members? ·.block.dropLast) = some none ∧
    (ofLine? "uniform <int> a',label:'b".toList).map
        (fun u => (members? u.block.dropLast).map (property? · "label".toList)) =
      some (some (some (units "b".toList))) ∧
    (ofLine? "uniform <vec2> p; C:\\temp".toList).map
        (fun u => (members? u.block.dropLast).map (property? · "detail".toList)) =
      some (some (some (units "<vec2> C:\temp".toList))) := by
  decide +kernel

end Blocks

end ShaderTools.Proofs.SnippetLiterals
