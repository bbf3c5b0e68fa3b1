import Mathlib.Data.List.DropRight
import ShaderTools.Install
import ShaderTools.Proofs.AbsolutePaths

/-!
The paths above a path. The path above one has all of its components but the last; and above a path
that was joined from pieces lie the same path with fewer pieces, until only one name is left. An
entry is staged in such a path of its own name, unless it has no other name than that of its file.
-/

namespace ShaderTools.Proofs.StagedPaths

open ShaderTools.Text
open ShaderTools.Path
open ShaderTools.Install
open ShaderTools.Proofs.TextPieces
open ShaderTools.Proofs.JoinedPaths
open ShaderTools.Proofs.AbsolutePaths

section Splitting

theorem slash_not_mem_split {t piece : Text} (h : piece ∈ split (· = '/') t) : '/' ∉ piece := by
  induction t generalizing piece with
  | nil =>
      obtain rfl : piece = [] := by simpa [split] using h
      simp
  | cons c rest ih =>
      by_cases hc : c = '/'
      · simp only [split, hc, decide_true, if_true, List.mem_cons] at h
        rcases h with rfl | hrest
        · simp
        · exact ih hrest
      · simp only [split, hc, decide_false, Bool.false_eq_true, if_false] at h
        rcases mem_growFirst h with ⟨others, rfl, rfl | hothers⟩ | hothers
        · simp [Ne.symm hc]
        · simp [Ne.symm hc, ih hothers]
        · exact ih hothers

theorem split_intercalate {names : List Text} (hne : names ≠ [])
    (h : ∀ name ∈ names, '/' ∉ name) :
    split (· = '/') (List.intercalate ['/'] names) = names := by
  induction names with
  | nil => exact absurd rfl hne
  | cons first rest ih =>
      have hfirst := split_of_slash_not_mem (h first (by simp))
      cases rest with
      | nil => simpa using hfirst
      | cons second rest =>
          rw [List.intercalate_cons_cons, List.append_assoc, List.singleton_append,
            split_append_separator (by simp), hfirst,
            ih (by simp) fun name hname => h name (by simp [hname])]
          rfl

/-- The component of a piece between slashes. -/
def componentOf? (piece : Text) : Option Component :=
  if isSkipped piece then none else componentOfPiece piece

theorem exists_componentOf? {piece : Text} (h : isSkipped piece = false) :
    ∃ c, componentOf? piece = some c := by
  have hdot : piece ≠ ['.'] := by
    rintro rfl
    simp [isSkipped] at h
  rw [componentOf?, if_neg (by simp [h]), componentOfPiece, if_neg hdot]
  split
  · exact ⟨_, rfl⟩
  · exact ⟨_, rfl⟩

theorem filterMap_rdropWhile (pieces : List Text) :
    (pieces.rdropWhile isSkipped).filterMap componentOf? = pieces.filterMap componentOf? := by
  induction pieces using List.reverseRecOn with
  | nil => rfl
  | append_singleton pieces last ih =>
      rw [List.rdropWhile_concat]
      split
      · next hskipped => simp [ih, componentOf?, hskipped]
      · rfl

theorem inner_eq_filterMap_split (p : Path) :
    innerOf p = (split (· = '/') p).filterMap componentOf? := by
  have hpieces : pieces (List.intercalate ['/'] (split (· = '/') p)) =
      (split (· = '/') p).filter (· ≠ []) := pieces_intercalate fun _ => slash_not_mem_split
  rw [intercalate_split] at hpieces
  rw [innerOf, hpieces, List.filterMap_filter]
  apply List.filterMap_congr
  intro piece _
  by_cases hempty : piece = []
  · simp [hempty, componentOf?, isSkipped]
  · by_cases hdot : piece = ['.'] <;> simp [hempty, hdot, componentOf?, isSkipped, componentOfPiece]

end Splitting

section Parents

def startOf (start : Text) : List Component :=
  if start = ['/'] then [.root] else if start = ['.'] then [.current] else []

/-- What a path starts with: a slash, or a dot alone before its first slash, or neither. -/
theorem cutStart_cases (p : Path) :
    (∃ rest, p = '/' :: rest ∧ p.cutStart = (['/'], rest)) ∨
    (∃ rest, p = '.' :: rest ∧ (rest = [] ∨ ∃ behind, rest = '/' :: behind) ∧
      p.cutStart = (['.'], rest)) ∨
    (p.head? ≠ some '/' ∧ p.takeWhile (· ≠ '/') ≠ ['.'] ∧ p.cutStart = ([], p)) := by
  match p with
  | [] => exact Or.inr (Or.inr ⟨by simp, by simp, rfl⟩)
  | [c] =>
      by_cases hslash : c = '/'
      · subst hslash
        exact Or.inl ⟨[], rfl, rfl⟩
      · by_cases hdot : c = '.'
        · subst hdot
          exact Or.inr (Or.inl ⟨[], rfl, Or.inl rfl, rfl⟩)
        · exact Or.inr (Or.inr ⟨by simp [hslash], by simp [hslash, hdot],
            by simp [cutStart, hslash, hdot]⟩)
  | c :: d :: rest =>
      by_cases hslash : c = '/'
      · subst hslash
        exact Or.inl ⟨d :: rest, rfl, rfl⟩
      · by_cases hdot : c = '.'
        · subst hdot
          by_cases hsecond : d = '/'
          · subst hsecond
            exact Or.inr (Or.inl ⟨'/' :: rest, rfl, Or.inr ⟨rest, rfl⟩, rfl⟩)
          · exact Or.inr (Or.inr ⟨by simp, by simp [hsecond], by simp [cutStart, hsecond]⟩)
        · exact Or.inr (Or.inr ⟨by simp [hslash], by simp [hslash, hdot],
            by simp [cutStart, hslash, hdot]⟩)

theorem cutStart_of_plain {p : Path} (hslash : p.head? ≠ some '/')
    (hdot : p.takeWhile (· ≠ '/') ≠ ['.']) : p.cutStart = ([], p) := by
  rcases cutStart_cases p with ⟨rest, rfl, -⟩ | ⟨rest, rfl, hrest, -⟩ | ⟨-, -, hcut⟩
  · simp at hslash
  · rcases hrest with rfl | ⟨behind, rfl⟩ <;> simp at hdot
  · exact hcut

theorem startOf_cutStart (p : Path) :
    (if p.isAbsolute then [Component.root]
      else if p.pieces.head? = some ['.'] then [.current] else []) = startOf p.cutStart.1 := by
  rcases cutStart_cases p with ⟨rest, rfl, hcut⟩ | ⟨rest, rfl, hrest, hcut⟩ | ⟨hslash, hdot, hcut⟩
  · rw [hcut]
    rfl
  · rw [hcut]
    rcases hrest with rfl | ⟨behind, rfl⟩
    · decide
    · have hpieces : pieces ('.' :: '/' :: behind) = ['.'] :: pieces ('/' :: behind) :=
        words_cons_of_not_startsWord (by simp) (by simp [startsWord])
      simp [isAbsolute, hpieces, startOf]
  · rw [hcut]
    have hhead : p.pieces.head? ≠ some ['.'] := by
      cases p with
      | nil => simp [pieces]
      | cons c rest =>
          have hc : c ≠ '/' := by simpa using hslash
          rw [pieces, head?_words (by simp [startsWord, hc])]
          simpa using hdot
    simp [isAbsolute, hslash, hhead, startOf]

/-- The components of a path are read off its start and the pieces between its slashes. -/
theorem components_eq (p : Path) :
    p.components =
      startOf p.cutStart.1 ++ (split (· = '/') p.cutStart.2).filterMap componentOf? := by
  have hinner : innerOf p = (split (· = '/') p.cutStart.2).filterMap componentOf? := by
    rw [inner_eq_filterMap_split]
    unfold cutStart
    split <;> rfl
  rw [← startOf_cutStart, ← hinner]
  rfl

theorem exists_intercalate_cons (first : Text) (others : List Text) :
    ∃ rest, List.intercalate ['/'] (first :: others) = first ++ rest ∧
      (rest = [] ∨ ∃ behind, rest = '/' :: behind) := by
  cases others with
  | nil => exact ⟨[], by simp, Or.inl rfl⟩
  | cons second others =>
      refine ⟨'/' :: List.intercalate ['/'] (second :: others), ?_, Or.inr ⟨_, rfl⟩⟩
      rw [List.intercalate_cons_cons, List.append_assoc]
      rfl

theorem takeWhile_append_slash {piece rest : Text} (hpiece : '/' ∉ piece)
    (hrest : rest = [] ∨ ∃ behind, rest = '/' :: behind) :
    (piece ++ rest).takeWhile (· ≠ '/') = piece := by
  rw [List.takeWhile_append_of_pos]
  · rcases hrest with rfl | ⟨behind, rfl⟩ <;> simp
  · intro c hc
    rw [decide_eq_true_eq]
    rintro rfl
    exact hpiece hc

/-- The start of a path is also that of its beginnings, if they do not end in a piece that is no
component. -/
theorem cutStart_beginning {p : Path} {beginning more : List Text}
    (hsplit : split (· = '/') p.cutStart.2 = beginning ++ more)
    (hlast : ∀ last, beginning.getLast? = some last → isSkipped last = false) :
    cutStart (p.cutStart.1 ++ List.intercalate ['/'] beginning) =
      (p.cutStart.1, List.intercalate ['/'] beginning) := by
  rcases cutStart_cases p with ⟨rest, rfl, hcut⟩ | ⟨rest, rfl, hrest, hcut⟩ | ⟨hslash, hdot, hcut⟩
  · rw [hcut]
    rfl
  · rw [hcut] at hsplit ⊢
    simp only at hsplit ⊢
    cases beginning with
    | nil => rfl
    | cons first others =>
        obtain rfl : first = [] := by
          rcases hrest with rfl | ⟨behind, rfl⟩
          · simpa [split, eq_comm] using (List.cons.inj hsplit).1
          · simpa [split, eq_comm] using (List.cons.inj hsplit).1
        cases others with
        | nil =>
            have hskipped := hlast [] rfl
            simp [isSkipped] at hskipped
        | cons second others =>
            rw [List.intercalate_cons_cons]
            rfl
  · rw [hcut] at hsplit ⊢
    simp only [List.nil_append] at hsplit ⊢
    cases beginning with
    | nil => rfl
    | cons first others =>
        have hslashless : '/' ∉ first := slash_not_mem_split (t := p) (by simp [hsplit])
        obtain ⟨rest, hjoined, hrest⟩ := exists_intercalate_cons first others
        obtain ⟨behind, hwhole, hbehind⟩ := exists_intercalate_cons first (others ++ more)
        rw [← List.cons_append, ← hsplit, intercalate_split] at hwhole
        have hne : first ≠ [] := by
          rintro rfl
          rcases hbehind with rfl | ⟨behind, rfl⟩
          · subst hwhole
            obtain ⟨-, hothers⟩ := List.cons.inj hsplit
            have hskipped := hlast [] (by simp [(List.nil_eq_append_iff.mp hothers).1])
            simp [isSkipped] at hskipped
          · simp [hwhole] at hslash
        rw [hjoined]
        apply cutStart_of_plain
        · rw [hwhole, List.head?_append_of_ne_nil _ hne] at hslash
          rw [List.head?_append_of_ne_nil _ hne]
          exact hslash
        · rw [takeWhile_append_slash hslashless hrest]
          rw [hwhole, takeWhile_append_slash hslashless hbehind] at hdot
          exact hdot

theorem above_rdropWhile (start : Text) (pieces : List Text) :
    above start (pieces.rdropWhile isSkipped).reverse = above start pieces.reverse := by
  induction pieces using List.reverseRecOn with
  | nil => rfl
  | append_singleton pieces last ih =>
      rw [List.rdropWhile_concat, List.reverse_concat, above]
      split
      · exact ih
      · next hkept => rw [List.reverse_concat, above, if_neg hkept]

theorem above_concat (start : Text) (pieces : List Text) {last : Text}
    (hlast : isSkipped last = false) :
    above start (pieces ++ [last]).reverse =
      (start ++ List.intercalate ['/'] (pieces.rdropWhile isSkipped)) ::
        above start pieces.reverse := by
  rw [List.reverse_concat, above, if_neg (by simp [hlast])]
  rfl

theorem isSkipped_of_getLast?_rdropWhile (pieces : List Text) {last : Text}
    (h : (pieces.rdropWhile isSkipped).getLast? = some last) : isSkipped last = false := by
  have hne : pieces.rdropWhile isSkipped ≠ [] := by
    intro hnil
    simp [hnil] at h
  have hkept := List.rdropWhile_last_not isSkipped pieces hne
  rw [List.getLast?_eq_some_getLast hne, Option.some.injEq] at h
  rw [h] at hkept
  simpa using hkept

theorem filterMap_split_intercalate {pieces : List Text} (h : ∀ piece ∈ pieces, '/' ∉ piece) :
    (split (· = '/') (List.intercalate ['/'] pieces)).filterMap componentOf? =
      pieces.filterMap componentOf? := by
  by_cases hpieces : pieces = []
  · subst hpieces
    rfl
  · rw [split_intercalate hpieces h]

/-- The path above a path has all of its components but the last one. -/
theorem components_parent? {p q : Path} (h : p.parent? = some q) :
    q.components = p.components.dropLast := by
  obtain ⟨pieces, hpieces⟩ : ∃ pieces, split (· = '/') p.cutStart.2 = pieces := ⟨_, rfl⟩
  rw [parent?, ancestors] at h
  simp only at h
  rw [components_eq p, hpieces, ← filterMap_rdropWhile]
  rw [hpieces, ← above_rdropWhile] at h
  rcases List.eq_nil_or_concat' (pieces.rdropWhile isSkipped) with hnil | ⟨front, last, hkept⟩
  · rw [hnil, List.reverse_nil, above] at h
    split at h
    · next hstart =>
        obtain rfl : [] = q := by simpa using h
        rw [hnil, hstart]
        rfl
    · simp at h
  · have hlast : isSkipped last = false :=
      isSkipped_of_getLast?_rdropWhile pieces (by simp [hkept])
    rw [hkept, above_concat _ _ hlast, List.head?_cons, Option.some.injEq] at h
    have hsplit : ∃ more, pieces = front.rdropWhile isSkipped ++ more := by
      obtain ⟨more, hmore⟩ := List.rdropWhile_prefix isSkipped front
      obtain ⟨rest, hrest⟩ := List.rdropWhile_prefix isSkipped pieces
      refine ⟨more ++ [last] ++ rest, ?_⟩
      conv_lhs => rw [← hrest, hkept, ← hmore]
      simp
    obtain ⟨more, hmore⟩ := hsplit
    have hslashless : ∀ piece ∈ front.rdropWhile isSkipped, '/' ∉ piece := by
      intro piece hpiece
      apply slash_not_mem_split (t := p.cutStart.2)
      rw [hpieces, hmore]
      exact List.mem_append_left _ hpiece
    have hcut := cutStart_beginning (hpieces.trans hmore)
      fun last hlast => isSkipped_of_getLast?_rdropWhile front hlast
    obtain ⟨c, hc⟩ := exists_componentOf? hlast
    rw [← h, components_eq, hcut]
    simp only
    rw [filterMap_split_intercalate hslashless, filterMap_rdropWhile, hkept,
      List.filterMap_append, List.filterMap_cons_some hc, List.filterMap_nil, ← List.append_assoc,
      List.dropLast_concat]

theorem isAbsolute_of_mem_above {pieces : List Text} {q : Path} (h : q ∈ above ['/'] pieces) :
    q.isAbsolute = true := by
  induction pieces with
  | nil => simp [above] at h
  | cons last rest ih =>
      rw [above] at h
      split at h
      · exact ih h
      · rcases List.mem_cons.mp h with rfl | habove
        · rfl
        · exact ih habove

theorem isAbsolute_of_mem_ancestors {p q : Path} (hp : p.isAbsolute = true)
    (h : q ∈ p.ancestors) : q.isAbsolute = true := by
  rcases cutStart_cases p with ⟨rest, rfl, hcut⟩ | ⟨rest, rfl, hrest, hcut⟩ | ⟨hslash, hdot, hcut⟩
  · rw [ancestors, hcut] at h
    exact isAbsolute_of_mem_above h
  · simp [isAbsolute] at hp
  · simp [isAbsolute, hslash] at hp

end Parents

section Joined

variable {p : Path}

theorem rdropWhile_append {α : Type} {dropped : α → Bool} {front back : List α}
    (h : back.rdropWhile dropped ≠ []) :
    (front ++ back).rdropWhile dropped = front ++ back.rdropWhile dropped := by
  have hne : back.reverse.dropWhile dropped ≠ [] := by simpa [List.rdropWhile] using h
  rw [List.rdropWhile, List.reverse_append, List.dropWhile_append, if_neg (by simpa using hne),
    List.reverse_append, List.reverse_reverse]
  rfl

/-- Behind the path that it was joined to, a path has the pieces of the other part. -/
theorem exists_cutStart_join (hp : p ≠ []) :
    ∃ start front, ∀ relative : Path, (p.join relative).cutStart.1 = start ∧
      split (· = '/') (p.join relative).cutStart.2 = front ++ split (· = '/') relative := by
  obtain ⟨before, hbefore⟩ : ∃ before : Path,
      ∀ relative, p.join relative = before ++ '/' :: relative := by
    by_cases hlast : p.getLast? = some '/'
    · obtain ⟨before, rfl⟩ := List.getLast?_eq_some_iff.mp hlast
      exact ⟨before, fun relative => by simp [join]⟩
    · exact ⟨p, fun relative => by simp [join, hp, hlast]⟩
  by_cases hnil : before = []
  · subst hnil
    refine ⟨['/'], [], fun relative => ?_⟩
    rw [hbefore]
    exact ⟨rfl, rfl⟩
  · refine ⟨before.cutStart.1, split (· = '/') before.cutStart.2, fun relative => ?_⟩
    rw [hbefore, cutStart_append_slash hnil]
    exact ⟨rfl, split_append_separator (by simp) _ _⟩

/-- The paths above a joined path are read off the pieces of both parts. -/
theorem exists_ancestors_join (hp : p ≠ []) :
    ∃ start front,
      (∀ relative : Path,
        (p.join relative).ancestors = above start (front ++ split (· = '/') relative).reverse) ∧
      ∀ names : List Text, names ≠ [] → (∀ name ∈ names, '/' ∉ name) →
        start ++ List.intercalate ['/'] (front ++ names) =
          p.join (List.intercalate ['/'] names) := by
  obtain ⟨start, front, hcut⟩ := exists_cutStart_join hp
  refine ⟨start, front, ?_, ?_⟩
  · intro relative
    rw [← (hcut relative).1, ← (hcut relative).2]
    rfl
  · intro names hne hnames
    obtain ⟨hstart, hsplit⟩ := hcut (List.intercalate ['/'] names)
    rw [split_intercalate hne hnames] at hsplit
    rw [← hsplit, ← hstart, intercalate_split, cutStart_append]

theorem slash_not_mem_rdropWhile {pieces : List Text} (h : ∀ piece ∈ pieces, '/' ∉ piece) :
    ∀ piece ∈ pieces.rdropWhile isSkipped, '/' ∉ piece :=
  fun piece hpiece => h piece ((List.rdropWhile_prefix isSkipped pieces).subset hpiece)

theorem ancestors_join_rdropWhile (hp : p ≠ []) {pieces : List Text}
    (hslash : ∀ piece ∈ pieces, '/' ∉ piece) (hkept : pieces.rdropWhile isSkipped ≠ []) :
    (p.join (List.intercalate ['/'] pieces)).ancestors =
      (p.join (List.intercalate ['/'] (pieces.rdropWhile isSkipped))).ancestors := by
  have hne : pieces ≠ [] := by
    rintro rfl
    simp at hkept
  obtain ⟨start, front, hancestors, -⟩ := exists_ancestors_join hp
  rw [hancestors, hancestors, split_intercalate hne hslash,
    split_intercalate hkept (slash_not_mem_rdropWhile hslash), ← rdropWhile_append hkept,
    above_rdropWhile]

/-- Above a path that was joined from pieces lies the path joined from the pieces before the last
one, with all that is above that. -/
theorem ancestors_join (hp : p ≠ []) {pieces : List Text} {last : Text}
    (hslash : ∀ piece ∈ pieces ++ [last], '/' ∉ piece) (hlast : isSkipped last = false)
    (hkept : pieces.rdropWhile isSkipped ≠ []) :
    (p.join (List.intercalate ['/'] (pieces ++ [last]))).ancestors =
      p.join (List.intercalate ['/'] (pieces.rdropWhile isSkipped)) ::
        (p.join (List.intercalate ['/'] (pieces.rdropWhile isSkipped))).ancestors := by
  have hkeptSlash := slash_not_mem_rdropWhile fun piece hpiece =>
    hslash piece (List.mem_append_left _ hpiece)
  obtain ⟨start, front, hancestors, hjoined⟩ := exists_ancestors_join hp
  rw [hancestors, split_intercalate (by simp) hslash, ← List.append_assoc,
    above_concat _ _ hlast, rdropWhile_append hkept, hjoined _ hkept hkeptSlash, hancestors,
    split_intercalate hkept hkeptSlash, ← rdropWhile_append hkept, above_rdropWhile]

end Joined

section Staging

theorem getLast?_of_fileName? {p : Path} {name : Text} (h : p.fileName? = some name) :
    p.components.getLast? = some (.name name) := by
  unfold fileName? at h
  split at h
  · next text htext => rw [htext, Option.some.inj h]
  · simp at h

/-- The last component of a path that ends in a name. -/
theorem inner_of_fileName? {p : Path} {name : Text} (h : p.fileName? = some name) :
    ∃ cs, innerOf p = cs ++ [.name name] := by
  have hlast := getLast?_of_fileName? h
  rw [components, ← innerOf] at hlast
  by_cases hinner : innerOf p = []
  · rw [hinner, List.append_nil] at hlast
    split at hlast
    · simp at hlast
    · split at hlast <;> simp at hlast
  · rw [List.getLast?_append_of_ne_nil _ hinner] at hlast
    exact List.getLast?_eq_some_iff.mp hlast

theorem isPiece_of_fileName? {p : Path} {name : Text} (h : p.fileName? = some name) :
    IsPiece name := by
  obtain ⟨cs, hcs⟩ := inner_of_fileName? h
  exact isInner_of_mem_inner (p := p) (c := .name name) (by simp [hcs])

theorem nul_not_mem_fileName {p : Path} {name : Text} (hnul : '\x00' ∉ p)
    (h : p.fileName? = some name) : '\x00' ∉ name := by
  obtain ⟨cs, hcs⟩ := inner_of_fileName? h
  have hmem : Component.name name ∈ innerOf p := by simp [hcs]
  exact fun hzero => hnul (mem_of_mem_text hmem (by decide) hzero)

theorem components_join_name (p : Path) {name : Text} (h : IsPiece name) :
    (p.join name).components = p.components ++ [.name name] := by
  by_cases hp : p = []
  · subst hp
    have hjoin : Path.join [] name = name := by simp [join]
    have habsolute : isAbsolute name = false := by
      obtain ⟨c, rest, rfl⟩ := List.exists_cons_of_ne_nil h.nonempty
      simpa [isAbsolute, eq_comm] using fun hc : c = '/' => h.slash (by simp [hc])
    simp [hjoin, components, habsolute, h.pieces_eq, h.dot, h.componentOfPiece_eq]
    rfl
  · rw [components_join hp, h.pieces_eq, List.filterMap_cons_some h.componentOfPiece_eq]
    rfl

variable {destination relative directory : Path} {fileName : Text}

theorem sameAs_of_parent?
    (hsame : (destination.join relative).components = destination.components ++ [.name fileName])
    (hparent : (destination.join relative).parent? = some directory) :
    directory.sameAs destination = true := by
  rw [sameAs, decide_eq_true_eq, components_parent? hparent, hsame, List.dropLast_concat]

/-- Nothing is made for staging where the entry is staged as its own file. -/
theorem stagingDirectory?_eq_none (hname : IsPiece fileName)
    (hsame : (destination.join relative).sameAs (destination.join fileName) = true) :
    (Plan.of relative fileName destination).stagingDirectory? = none := by
  have hcomponents : (destination.join relative).components =
      destination.components ++ [.name fileName] := by
    rw [sameAs, decide_eq_true_eq] at hsame
    rw [hsame, components_join_name destination hname]
  simp only [Plan.of, Option.filter_eq_none_iff, Bool.not_eq_true', Bool.not_eq_false]
  intro directory hdirectory
  exact sameAs_of_parent? hcomponents hdirectory

/-- What is made for staging is a path of the entry's name, up to a piece before its last one. -/
theorem exists_of_stagingDirectory? (hdestination : destination ≠ [])
    (hname : relative.fileName? = some fileName)
    (h : (Plan.of relative fileName destination).stagingDirectory? = some directory) :
    ∃ front last, front ++ [last] <+: split (· = '/') relative ∧ isSkipped last = false ∧
      directory = destination.join (List.intercalate ['/'] (front ++ [last])) := by
  obtain ⟨hparent, hother⟩ : (destination.join relative).parent? = some directory ∧
      directory.sameAs destination = false := by
    simpa [Plan.of, Option.filter_eq_some_iff] using h
  obtain ⟨cs, hinner⟩ := inner_of_fileName? hname
  obtain ⟨pieces, hpieces⟩ : ∃ pieces, split (· = '/') relative = pieces := ⟨_, rfl⟩
  rw [inner_eq_filterMap_split, hpieces] at hinner
  have hslash : ∀ piece ∈ pieces, '/' ∉ piece := fun piece hpiece =>
    slash_not_mem_split (t := relative) (by rw [hpieces]; exact hpiece)
  have hrelative : relative = List.intercalate ['/'] pieces := by
    rw [← hpieces, intercalate_split]
  rw [← filterMap_rdropWhile] at hinner
  have hkept : pieces.rdropWhile isSkipped ≠ [] := by
    intro hnil
    simp [hnil] at hinner
  have hbeginning := List.rdropWhile_prefix isSkipped pieces
  obtain ⟨before, last, hlast⟩ : ∃ before last, pieces.rdropWhile isSkipped = before ++ [last] :=
    (List.eq_nil_or_concat' _).resolve_left hkept
  have hlastKept : isSkipped last = false :=
    isSkipped_of_getLast?_rdropWhile pieces (by simp [hlast])
  rw [hpieces]
  -- with a single name, the path above is the destination, which is not made
  by_cases hmore : before.rdropWhile isSkipped = []
  · have hbefore : before.filterMap componentOf? = [] := by
      rw [← filterMap_rdropWhile, hmore, List.filterMap_nil]
    obtain ⟨c, hc⟩ := exists_componentOf? hlastKept
    have hsingle : innerOf relative = [.name fileName] := by
      rw [inner_eq_filterMap_split, hpieces, ← filterMap_rdropWhile, hinner]
      rw [hlast, List.filterMap_append, hbefore, List.filterMap_cons_some hc] at hinner
      obtain ⟨rfl, -⟩ := List.append_inj' hinner rfl
      rfl
    have hcomponents : (destination.join relative).components =
        destination.components ++ [.name fileName] := by
      rw [components_join hdestination, ← hsingle]
      rfl
    simp [sameAs_of_parent? hcomponents hparent] at hother
  · have hslashKept := slash_not_mem_rdropWhile hslash
    rw [parent?, hrelative, ancestors_join_rdropWhile hdestination hslash hkept, hlast,
      ancestors_join hdestination (by rwa [hlast] at hslashKept) hlastKept hmore,
      List.head?_cons, Option.some.injEq] at hparent
    obtain ⟨front, last', hfront⟩ : ∃ front last',
        before.rdropWhile isSkipped = front ++ [last'] :=
      (List.eq_nil_or_concat' _).resolve_left hmore
    refine ⟨front, last', ?_, ?_, ?_⟩
    · rw [← hfront]
      rw [hlast] at hbeginning
      have hbefore := (List.rdropWhile_prefix isSkipped before).trans (List.prefix_append _ [last])
      exact hbefore.trans hbeginning
    · exact isSkipped_of_getLast?_rdropWhile before (by simp [hfront])
    · rw [← hfront, hparent]

end Staging

end ShaderTools.Proofs.StagedPaths
