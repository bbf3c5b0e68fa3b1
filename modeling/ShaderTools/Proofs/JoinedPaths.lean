import ShaderTools.FileSystem.Walk
import ShaderTools.Proofs.TextPieces

/-!
Paths that were put together. What is read off a path (its pieces, its components, the path above
it, its absolute form) is read off a joined path part by part, as long as the first part is not
empty.
-/

namespace ShaderTools.Proofs.JoinedPaths

open ShaderTools.Text
open ShaderTools.Path
open ShaderTools.Proofs.TextPieces

/-- A piece of a path that is the name of an entry of a directory. -/
structure IsPiece (name : Text) : Prop where
  nonempty : name ≠ []
  slash : '/' ∉ name
  dot : name ≠ ['.']
  dots : name ≠ ['.', '.']

/-- A name that a path may give to an entry of a directory, and that is not too long for one. -/
structure IsName (name : Text) : Prop extends IsPiece name where
  nul : '\x00' ∉ name
  short : Utf8.size name ≤ FileSystem.nameLimit

theorem split_of_slash_not_mem {piece : Text} (h : '/' ∉ piece) :
    split (· = '/') piece = [piece] := by
  apply split_eq_singleton
  intro c hc
  rw [decide_eq_false_iff_not]
  rintro rfl
  exact h hc

namespace IsPiece

variable {name : Text} (h : IsPiece name)

include h

theorem pieces_eq : pieces name = [name] := by
  apply words_eq_singleton h.nonempty
  intro c hc
  rw [decide_eq_false_iff_not]
  rintro rfl
  exact h.slash hc

theorem split_eq : split (· = '/') name = [name] := split_of_slash_not_mem h.slash

theorem componentOfPiece_eq : componentOfPiece name = some (.name name) := by
  simp [componentOfPiece, h.dot, h.dots]

theorem stepOfPiece_eq : Route.stepOfPiece name = .name name := by
  simp [Route.stepOfPiece, h.dot, h.dots]

theorem isSkipped_eq : isSkipped name = false := by
  simp [isSkipped, h.nonempty, h.dot]

theorem getLast?_ne_slash : name.getLast? ≠ some '/' := fun hlast =>
  h.slash (List.mem_of_getLast? hlast)

end IsPiece

/-- Joining puts one slash between the parts, or takes the one that ends the first part. -/
theorem exists_join_eq {p : Path} (hp : p ≠ []) (relative : Path) :
    ∃ start : Path, p.join relative = start ++ '/' :: relative ∧
      (p = start ∨ p = start ++ ['/']) := by
  by_cases hlast : p.getLast? = some '/'
  · obtain ⟨start, hstart⟩ := List.getLast?_eq_some_iff.mp hlast
    exact ⟨start, by simp [join, hstart], Or.inr hstart⟩
  · exact ⟨p, by simp [join, hp, hlast], Or.inl rfl⟩

theorem join_ne_nil {p : Path} (hp : p ≠ []) (relative : Path) : p.join relative ≠ [] := by
  obtain ⟨start, hjoin, -⟩ := exists_join_eq hp relative
  simp [hjoin]

theorem getLast?_join (p : Path) {relative : Path} (h : relative ≠ []) :
    (p.join relative).getLast? = relative.getLast? := by
  unfold join
  split
  · rw [List.getLast?_append_of_ne_nil _ h]
  · rw [List.getLast?_append_of_ne_nil _ (by simp), List.getLast?_cons_of_ne_nil h]

theorem isAbsolute_join {p : Path} (hp : p ≠ []) (relative : Path) :
    (p.join relative).isAbsolute = p.isAbsolute := by
  obtain ⟨c, rest, rfl⟩ := List.exists_cons_of_ne_nil hp
  unfold join isAbsolute
  split <;> rfl

theorem pieces_append_slash (a b : Path) : (a ++ '/' :: b).pieces = a.pieces ++ b.pieces :=
  words_append_separator (by simp) a b

theorem pieces_join (p relative : Path) :
    (p.join relative).pieces = p.pieces ++ relative.pieces := by
  by_cases hp : p = []
  · subst hp
    simp [join, pieces]
  · obtain ⟨start, hjoin, hstart⟩ := exists_join_eq hp relative
    have hpieces : p.pieces = start.pieces := by
      rcases hstart with rfl | rfl
      · rfl
      · exact words_concat_separator (by simp) start
    rw [hjoin, hpieces, pieces_append_slash]

theorem pieces_ne_nil {p : Path} (hp : p ≠ []) (hrelative : p.isAbsolute = false) :
    p.pieces ≠ [] := by
  obtain ⟨c, rest, rfl⟩ := List.exists_cons_of_ne_nil hp
  apply words_ne_nil_of_startsWord
  simpa [startsWord, isAbsolute] using hrelative

theorem components_join {p : Path} (hp : p ≠ []) (relative : Path) :
    (p.join relative).components =
      p.components ++ relative.pieces.filterMap componentOfPiece := by
  have hhead : p.isAbsolute = false →
      (p.pieces ++ relative.pieces).head? = p.pieces.head? := by
    intro h
    obtain ⟨piece, pieces, hpieces⟩ := List.exists_cons_of_ne_nil (pieces_ne_nil hp h)
    simp [hpieces]
  simp only [components, isAbsolute_join hp, pieces_join, List.filterMap_append]
  cases habsolute : p.isAbsolute with
  | false => simp [hhead habsolute]
  | true => simp

theorem mem_join_iff {c : Char} (hc : c ≠ '/') (p relative : Path) :
    c ∈ p.join relative ↔ c ∈ p ∨ c ∈ relative := by
  unfold join
  split <;> simp [hc]

theorem size_append (a b : Text) : Utf8.size (a ++ b) = Utf8.size a + Utf8.size b := by
  induction a with
  | nil => simp [Utf8.size]
  | cons c rest ih =>
      have hcons : ∀ t : Text, Utf8.size (c :: t) = c.utf8Size + Utf8.size t := fun _ => rfl
      rw [List.cons_append, hcons, hcons, ih, Nat.add_assoc]

theorem size_join_le_of_size_le (p : Path) {a b : Path} (h : Utf8.size a ≤ Utf8.size b) :
    Utf8.size (p.join a) ≤ Utf8.size (p.join b) := by
  have hcons : ∀ t : Text, Utf8.size ('/' :: t) = 1 + Utf8.size t := fun _ => rfl
  unfold join
  split
  · rw [size_append, size_append]
    omega
  · rw [size_append, size_append, hcons, hcons]
    omega

theorem size_le_size_join (p relative : Path) : Utf8.size p ≤ Utf8.size (p.join relative) := by
  unfold join
  split <;> rw [size_append] <;> omega

section Parent

theorem cutStart_append (p : Path) : p.cutStart.1 ++ p.cutStart.2 = p := by
  unfold cutStart
  split <;> rfl

theorem cutStart_append_slash {p : Path} (hp : p ≠ []) (relative : Path) :
    (p ++ '/' :: relative).cutStart = (p.cutStart.1, p.cutStart.2 ++ '/' :: relative) := by
  match p with
  | [] => exact absurd rfl hp
  | [c] =>
      by_cases hslash : c = '/'
      · subst hslash
        rfl
      · by_cases hdot : c = '.'
        · subst hdot
          rfl
        · simp [cutStart, hslash, hdot]
  | c :: d :: rest =>
      by_cases hslash : c = '/'
      · subst hslash
        rfl
      · by_cases hdot : c = '.'
        · subst hdot
          by_cases hsecond : d = '/'
          · subst hsecond
            rfl
          · simp [cutStart, hsecond]
        · simp [cutStart, hslash, hdot]

theorem split_append_name (p : Path) {name : Text} (h : IsName name) :
    split (· = '/') (p ++ '/' :: name) = split (· = '/') p ++ [name] := by
  rw [split_append_separator (by simp), h.split_eq]

theorem exists_split_cutStart (p : Path) {name : Text} (h : IsName name) :
    ∃ pieces, split (· = '/') (p ++ '/' :: name).cutStart.2 = pieces ++ [name] := by
  by_cases hp : p = []
  · subst hp
    exact ⟨[], h.split_eq⟩
  · rw [cutStart_append_slash hp, split_append_name _ h]
    exact ⟨_, rfl⟩

theorem parent?_append_name {p : Path} {last name : Text} {pieces : List Text} (hp : p ≠ [])
    (hpieces : split (· = '/') p.cutStart.2 = pieces ++ [last]) (hlast : isSkipped last = false)
    (h : IsName name) : (p ++ '/' :: name).parent? = some p := by
  have hkept : (last :: pieces.reverse).dropWhile isSkipped = last :: pieces.reverse := by
    simp [hlast]
  have hjoined : p.cutStart.1 ++ List.intercalate ['/'] (pieces ++ [last]) = p := by
    rw [← hpieces, intercalate_split, cutStart_append]
  rw [parent?, ancestors, cutStart_append_slash hp]
  simp only [split_append_name _ h, hpieces, List.reverse_append, List.reverse_cons,
    List.reverse_nil, List.nil_append, List.cons_append]
  rw [above, if_neg (by simp [h.isSkipped_eq]), hkept]
  simpa using hjoined

/-- The path above a file in a directory below a path is that of the directory. -/
theorem parent?_join {p : Path} (hp : p ≠ []) {directory name : Text}
    (hdirectory : IsName directory) (hname : IsName name) :
    (p.join (directory ++ '/' :: name)).parent? = some (p.join directory) := by
  obtain ⟨start, hjoin, -⟩ := exists_join_eq hp directory
  obtain ⟨pieces, hpieces⟩ := exists_split_cutStart start hdirectory
  have hfile : p.join (directory ++ '/' :: name) = p.join directory ++ '/' :: name := by
    unfold join
    split <;> simp
  rw [hfile, hjoin]
  exact parent?_append_name (by simp) hpieces hdirectory.isSkipped_eq hname

end Parent

section Absolute

theorem join_join_nil (p relative : Path) : (p.join []).join relative = p.join relative := by
  by_cases hp : p = [] ∨ p.getLast? = some '/'
  · have hjoin : p.join [] = p := by rw [join, if_pos hp, List.append_nil]
    rw [hjoin]
  · have hjoin : p.join [] = p ++ ['/'] := by rw [join, if_neg hp]
    rw [hjoin, join, if_pos (by simp), join, if_neg hp]
    simp

theorem startsWithTwoSlashes_join {p : Path} (hp : p ≠ []) {name : Text} (h : IsPiece name) :
    (['/', '/'].isPrefixOf (p.join name) && decide ((p.join name)[2]? ≠ some '/')) =
      (['/', '/'].isPrefixOf p && decide (p[2]? ≠ some '/')) := by
  obtain ⟨first, rest, rfl⟩ := List.exists_cons_of_ne_nil h.nonempty
  have hfirst : first ≠ '/' := fun hslash => h.slash (by simp [hslash])
  match p with
  | [] => exact absurd rfl hp
  | [c] =>
      by_cases hc : c = '/'
      · simp [join, hc, Ne.symm hfirst]
      · simp [join, hc, Ne.symm hc, List.isPrefixOf]
  | [c, d] =>
      by_cases hd : d = '/'
      · simp [join, hd, hfirst, List.isPrefixOf]
      · simp [join, hd, Ne.symm hd, List.isPrefixOf]
  | c :: d :: e :: rest =>
      unfold join
      split <;> rfl

theorem absolute_name {name : Text} (h : IsPiece name) (workingDirectory : Path) :
    absolute name workingDirectory = workingDirectory.join name := by
  have habsolute : isAbsolute name = false := by
    obtain ⟨first, rest, rfl⟩ := List.exists_cons_of_ne_nil h.nonempty
    simpa [isAbsolute] using fun hslash : first = '/' => h.slash (by simp [hslash])
  have hcomponents : components name = [.name name] := by
    simp [components, habsolute, h.pieces_eq, h.dot, h.componentOfPiece_eq]
  simp [absolute, habsolute, hcomponents, h.getLast?_ne_slash, Component.text]

/-- The absolute form of a file in a directory is the file's name behind the directory's absolute
form. -/
theorem absolute_join (p : Path) {name : Text} (h : IsPiece name) (workingDirectory : Path) :
    (p.join name).absolute workingDirectory = (p.absolute workingDirectory).join name := by
  by_cases hp : p = []
  · subst hp
    exact absolute_name h workingDirectory
  · have hcomponents : (p.join name).components = p.components ++ [.name name] := by
      rw [components_join hp, h.pieces_eq]
      simp [h.componentOfPiece_eq]
    have hlast : (p.join name).getLast? ≠ some '/' := by
      rw [getLast?_join p h.nonempty]
      exact h.getLast?_ne_slash
    have hfilter : [Component.name name].filter (fun c => c ≠ .root ∧ c ≠ .current) =
        [.name name] := rfl
    simp only [absolute, isAbsolute_join hp, startsWithTwoSlashes_join hp h, hcomponents,
      List.filter_append, List.foldl_append, hfilter, if_neg hlast]
    by_cases hslash : p.getLast? = some '/'
    · rw [if_pos hslash, join_join_nil]
      rfl
    · rw [if_neg hslash]
      rfl

end Absolute

end ShaderTools.Proofs.JoinedPaths
