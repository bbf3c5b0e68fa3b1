import ShaderTools.Proofs.WalkEnds

/-!
Where the absolute form of a path leads: to the same place as the path, as long as its last piece is
a name. Two paths with the same components also lead to the same place then.
-/

namespace ShaderTools.Proofs.AbsolutePaths

open ShaderTools.Text
open ShaderTools.Path
open ShaderTools.FileSystem
open ShaderTools.Proofs.TextPieces
open ShaderTools.Proofs.JoinedPaths
open ShaderTools.Proofs.TreeUpdates
open ShaderTools.Proofs.WalkEnds

section Pieces

theorem of_mem_pieces {p : Path} {piece : Text} (h : piece ∈ p.pieces) :
    piece ≠ [] ∧ '/' ∉ piece ∧ ∀ c ∈ piece, c ∈ p := by
  obtain ⟨hne, hchars⟩ := of_mem_words h
  refine ⟨hne, ?_, fun c hc => (hchars c hc).2⟩
  intro hslash
  simpa using (hchars '/' hslash).1

theorem exists_piece_of_mem {p : Path} {c : Char} (h : c ∈ p) (hc : c ≠ '/') :
    ∃ piece ∈ p.pieces, c ∈ piece :=
  exists_word_of_mem h (by simpa using hc)

/-- The pieces of a path are those it is put together from, without empty ones. -/
theorem pieces_intercalate {names : List Text} (h : ∀ name ∈ names, '/' ∉ name) :
    pieces (List.intercalate ['/'] names) = names.filter (· ≠ []) := by
  apply words_intercalate (by simp)
  intro name hname c hc
  simpa using ne_of_mem_of_not_mem hc (h name hname)

end Pieces

section Components

/-- The components of a path behind its start. -/
def innerOf (p : Path) : List Component := p.pieces.filterMap componentOfPiece

/-- A component that may stand behind the start of a path. -/
def IsInner : Component → Prop
  | .root => False
  | .current => False
  | .parent => True
  | .name text => IsPiece text

theorem isInner_of_mem_inner {p : Path} {c : Component} (h : c ∈ innerOf p) : IsInner c := by
  obtain ⟨piece, hpiece, hcomponent⟩ := List.mem_filterMap.mp h
  obtain ⟨hne, hslash, -⟩ := of_mem_pieces hpiece
  unfold componentOfPiece at hcomponent
  split at hcomponent
  · simp at hcomponent
  · split at hcomponent
    · obtain rfl := Option.some.inj hcomponent
      trivial
    · next hdot hdots =>
        obtain rfl := Option.some.inj hcomponent
        exact ⟨hne, hslash, hdot, hdots⟩

theorem mem_of_mem_text {p : Path} {component : Component} {c : Char} (h : component ∈ innerOf p)
    (hdot : c ≠ '.') (hc : c ∈ component.text) : c ∈ p := by
  obtain ⟨piece, hpiece, hcomponent⟩ := List.mem_filterMap.mp h
  unfold componentOfPiece at hcomponent
  split at hcomponent
  · simp at hcomponent
  · split at hcomponent
    · obtain rfl := Option.some.inj hcomponent
      simp [Component.text, hdot] at hc
    · obtain rfl := Option.some.inj hcomponent
      exact (of_mem_pieces hpiece).2.2 _ hc

theorem filter_components (p : Path) :
    p.components.filter (fun c => c ≠ .root ∧ c ≠ .current) = innerOf p := by
  have hinner : (innerOf p).filter (fun c => c ≠ .root ∧ c ≠ .current) = innerOf p := by
    rw [List.filter_eq_self]
    intro c hc
    have hc' := isInner_of_mem_inner hc
    cases c <;> simp_all [IsInner]
  have hstart : (if p.isAbsolute then [Component.root]
      else if p.pieces.head? = some ['.'] then [.current] else []).filter
        (fun c => c ≠ .root ∧ c ≠ .current) = [] := by
    split
    · rfl
    · split <;> rfl
  simp only [components, List.filter_append]
  rw [hstart, List.nil_append]
  exact hinner

theorem pieces_text {c : Component} (h : IsInner c) : pieces c.text = [c.text] := by
  cases c with
  | root => exact h.elim
  | current => exact h.elim
  | parent => rfl
  | name text => exact IsPiece.pieces_eq h

theorem componentOfPiece_text {c : Component} (h : IsInner c) :
    componentOfPiece c.text = some c := by
  cases c with
  | root => exact h.elim
  | current => exact h.elim
  | parent => rfl
  | name text => exact IsPiece.componentOfPiece_eq h

theorem pieces_foldl_join {cs : List Component} (h : ∀ c ∈ cs, IsInner c) (q : Path) :
    (cs.foldl (fun q c => q.join c.text) q).pieces = q.pieces ++ cs.map Component.text := by
  induction cs generalizing q with
  | nil => simp
  | cons c rest ih =>
      rw [List.foldl_cons, ih (fun other hother => h other (by simp [hother])), pieces_join,
        pieces_text (h c (by simp))]
      simp

/-- What the absolute form of a path starts with. -/
def absoluteStart (p workingDirectory : Path) : Path :=
  if !p.isAbsolute then workingDirectory
  else if ['/', '/'].isPrefixOf p && p[2]? ≠ some '/' then ['/', '/'] else ['/']

theorem absoluteStart_of_relative {p : Path} (h : p.isAbsolute = false) (workingDirectory : Path) :
    absoluteStart p workingDirectory = workingDirectory := by
  simp [absoluteStart, h]

theorem pieces_absoluteStart {p : Path} (h : p.isAbsolute = true) (workingDirectory : Path) :
    (absoluteStart p workingDirectory).pieces = [] := by
  simp only [absoluteStart, h, Bool.not_true, Bool.false_eq_true, if_false]
  split <;> rfl

theorem absolute_eq (p workingDirectory : Path) :
    p.absolute workingDirectory =
      let whole := (innerOf p).foldl (fun q c => q.join c.text) (absoluteStart p workingDirectory)
      if p.getLast? = some '/' then whole.join [] else whole := by
  rw [← filter_components]
  rfl

theorem pieces_join_nil (q : Path) : (q.join []).pieces = q.pieces := by
  rw [pieces_join]
  exact List.append_nil _

theorem pieces_absolute (p workingDirectory : Path) :
    (p.absolute workingDirectory).pieces =
      (absoluteStart p workingDirectory).pieces ++ (innerOf p).map Component.text := by
  have hwhole := pieces_foldl_join (fun c hc => isInner_of_mem_inner (p := p) hc)
    (absoluteStart p workingDirectory)
  rw [absolute_eq]
  simp only
  split
  · rw [pieces_join_nil, hwhole]
  · exact hwhole

theorem inner_absolute (p workingDirectory : Path) :
    innerOf (p.absolute workingDirectory) =
      innerOf (absoluteStart p workingDirectory) ++ innerOf p := by
  have hinner : ∀ {cs : List Component}, (∀ c ∈ cs, IsInner c) →
      (cs.map Component.text).filterMap componentOfPiece = cs := by
    intro cs hcs
    induction cs with
    | nil => rfl
    | cons c rest ih =>
        rw [List.map_cons, List.filterMap_cons_some (componentOfPiece_text (hcs c (by simp))),
          ih fun other hother => hcs other (by simp [hother])]
  rw [innerOf, pieces_absolute, List.filterMap_append,
    hinner fun c hc => isInner_of_mem_inner hc]
  rfl

theorem isAbsolute_foldl_join {q : Path} (hq : q.isAbsolute = true) (cs : List Component) :
    (cs.foldl (fun q c => q.join c.text) q).isAbsolute = true := by
  induction cs generalizing q with
  | nil => exact hq
  | cons c rest ih =>
      have hne : q ≠ [] := by
        rintro rfl
        simp [isAbsolute] at hq
      exact ih (by rw [isAbsolute_join hne, hq])

theorem isAbsolute_absoluteStart (p : Path) (fs : FileSystem) :
    (absoluteStart p fs.workingPath).isAbsolute = true := by
  unfold absoluteStart
  split
  · rfl
  · split <;> rfl

theorem isAbsolute_absolute (p : Path) (fs : FileSystem) :
    (p.absolute fs.workingPath).isAbsolute = true := by
  have hwhole := isAbsolute_foldl_join (isAbsolute_absoluteStart p fs) (innerOf p)
  rw [absolute_eq]
  simp only
  split
  · rw [isAbsolute_join, hwhole]
    intro hnil
    simp [hnil, isAbsolute] at hwhole
  · exact hwhole

theorem getLast?_join_nil {q : Path} (hq : q ≠ []) : (q.join []).getLast? = some '/' := by
  unfold join
  split
  · next hends => simpa [hq] using hends
  · simp

theorem getLast?_text {c : Component} (h : IsInner c) :
    c.text ≠ [] ∧ c.text.getLast? ≠ some '/' := by
  cases c with
  | root => exact h.elim
  | current => exact h.elim
  | parent => decide
  | name text => exact ⟨IsPiece.nonempty h, IsPiece.getLast?_ne_slash h⟩

/-- The absolute form of a path ends in a slash if and only if the path does. -/
theorem getLast?_absolute {p : Path} (hinner : innerOf p ≠ []) (fs : FileSystem) :
    (p.absolute fs.workingPath).getLast? = some '/' ↔ p.getLast? = some '/' := by
  have habsolute := isAbsolute_foldl_join (isAbsolute_absoluteStart p fs) (innerOf p)
  rw [absolute_eq]
  simp only
  split
  · next hends =>
      refine iff_of_true (getLast?_join_nil ?_) hends
      intro hnil
      simp [hnil, isAbsolute] at habsolute
  · next hends =>
      refine iff_of_false ?_ hends
      obtain ⟨front, c, hcs⟩ : ∃ front c, innerOf p = front ++ [c] :=
        (List.eq_nil_or_concat' (innerOf p)).resolve_left hinner
      have hc := getLast?_text (isInner_of_mem_inner (p := p) (c := c) (by simp [hcs]))
      rw [hcs, List.foldl_append, List.foldl_cons, List.foldl_nil, getLast?_join _ hc.1]
      exact hc.2

end Components

section Routes

def stepOf : Component → PathStep
  | .root => .here
  | .current => .here
  | .parent => .up
  | .name text => .name text

theorem filter_map_stepOfPiece (pieces : List Text) :
    (pieces.map Route.stepOfPiece).filter (· ≠ .here) =
      (pieces.filterMap componentOfPiece).map stepOf := by
  induction pieces with
  | nil => rfl
  | cons piece rest ih =>
      by_cases hdot : piece = ['.']
      · simpa [Route.stepOfPiece, componentOfPiece, hdot] using ih
      · by_cases hdots : piece = ['.', '.']
        · simpa [Route.stepOfPiece, componentOfPiece, hdots, stepOf] using ih
        · simpa [Route.stepOfPiece, componentOfPiece, hdot, hdots, stepOf] using ih

/-- A path that is followed, and that does not end in a dot. -/
structure Followable (p : Path) : Prop extends IsFollowed p where
  dot : p.pieces.getLast? ≠ some ['.']

variable {fs : FileSystem} {last : LastName} {p q : Path}

theorem place_eq_walk (h : Followable p) :
    fs.place last p = walk fs last linkLimit fs.workingDirectory
      ⟨p.isAbsolute, (innerOf p).map stepOf, p.getLast? = some '/'⟩ := by
  have hlast : (p.pieces.map Route.stepOfPiece).getLast? ≠ some .here := by
    intro hhere
    rw [List.getLast?_map, Option.map_eq_some_iff] at hhere
    obtain ⟨piece, hpiece, hstep⟩ := hhere
    unfold Route.stepOfPiece at hstep
    split at hstep
    · next hdot => exact h.dot (hdot ▸ hpiece)
    · split at hstep <;> simp at hstep
  rw [h.place_eq, innerOf, ← filter_map_stepOfPiece]
  exact walk_thinned linkLimit _ _ (thinned_filter hlast)

theorem followable_of_place {parent : Location} {name : Text} {slash : Bool}
    (h : fs.place last p = .ok (.entry parent name slash)) : Followable p := by
  refine ⟨isFollowed_of_place h, ?_⟩
  intro hdot
  refine walk_ne_entry linkLimit ?_ (walk_of_place h)
  simp [Route.ofPath, List.getLast?_map, hdot, Route.stepOfPiece]

theorem of_sameAs (h : p.sameAs q = true) :
    p.isAbsolute = q.isAbsolute ∧ innerOf p = innerOf q := by
  have hcomponents : p.components = q.components := by simpa [sameAs] using h
  have hroot : ∀ p : Path, .root ∈ p.components ↔ p.isAbsolute = true := by
    intro p
    have hinner : Component.root ∉ p.pieces.filterMap componentOfPiece := fun hmem =>
      isInner_of_mem_inner (p := p) hmem
    cases habsolute : p.isAbsolute with
    | true => simp [components, habsolute]
    | false =>
        simp only [components, habsolute, List.mem_append, hinner, or_false, Bool.false_eq_true,
          if_false, iff_false]
        split <;> simp
  constructor
  · rw [Bool.eq_iff_iff, ← hroot, ← hroot, hcomponents]
  · rw [← filter_components, ← filter_components, hcomponents]

end Routes

section WorkingDirectory

variable {fs : FileSystem} {last : LastName} {p : Path}

/-- The working directory is a directory that a path can name. -/
structure HasWorkingDirectory (fs : FileSystem) : Prop where
  names : ∀ name ∈ fs.workingDirectory, IsName name
  node : fs.node? fs.workingDirectory = some .directory

theorem HasWorkingDirectory.of_keeps {now : FileSystem} (h : HasWorkingDirectory fs)
    (hworking : now.workingDirectory = fs.workingDirectory)
    (hkeeps : ∀ l, fs.node? l = some .directory → now.node? l = some .directory) :
    HasWorkingDirectory now := by
  refine ⟨?_, ?_⟩
  · rw [hworking]
    exact h.names
  · rw [hworking]
    exact hkeeps _ h.node

theorem pieces_workingPath (h : HasWorkingDirectory fs) :
    fs.workingPath.pieces = fs.workingDirectory := by
  have hpieces : pieces (List.intercalate ['/'] fs.workingDirectory) =
      fs.workingDirectory.filter (· ≠ []) :=
    pieces_intercalate fun name hname => (h.names name hname).slash
  have hnonempty : fs.workingDirectory.filter (· ≠ []) = fs.workingDirectory := by
    rw [List.filter_eq_self]
    intro name hname
    simpa using (h.names name hname).nonempty
  have hstart := pieces_append_slash [] (List.intercalate ['/'] fs.workingDirectory)
  rw [hpieces, hnonempty] at hstart
  exact hstart

theorem nul_not_mem_absoluteStart (hworking : p.isAbsolute = false → HasWorkingDirectory fs)
    {piece : Text} (hpiece : piece ∈ (absoluteStart p fs.workingPath).pieces) : '\x00' ∉ piece := by
  cases habsolute : p.isAbsolute with
  | true => simp [pieces_absoluteStart habsolute] at hpiece
  | false =>
      rw [absoluteStart_of_relative habsolute, pieces_workingPath (hworking habsolute)] at hpiece
      exact ((hworking habsolute).names piece hpiece).nul

theorem steps_workingPath (h : HasWorkingDirectory fs) :
    (innerOf fs.workingPath).map stepOf = fs.workingDirectory.map .name := by
  have hmap : ∀ {names : List Text}, (∀ name ∈ names, IsName name) →
      (names.filterMap componentOfPiece).map stepOf = names.map .name := by
    intro names hnames
    induction names with
    | nil => rfl
    | cons first rest ih =>
        have hfirst := (hnames first (by simp)).componentOfPiece_eq
        rw [List.filterMap_cons_some hfirst, List.map_cons, List.map_cons,
          ih fun name hname => hnames name (by simp [hname])]
        rfl
  rw [innerOf, pieces_workingPath h]
  exact hmap h.names

theorem walkSteps_names {slash : Bool} {follow : Location → Route → Except Failure Place}
    {names : List Text} (hnames : ∀ name ∈ names, IsName name) {l : Location}
    (hnode : fs.node? (l ++ names) = some .directory) {rest : List PathStep} (hrest : rest ≠ []) :
    walkSteps fs last slash follow l (names.map .name ++ rest) =
      walkSteps fs last slash follow (l ++ names) rest := by
  induction names generalizing l with
  | nil => simp
  | cons first others ih =>
      have hmore : others.map PathStep.name ++ rest ≠ [] := by simp [hrest]
      have hshort : ¬nameLimit < Utf8.size first := Nat.not_lt.mpr (hnames first (by simp)).short
      have hlower : l ++ first :: others = l ++ [first] ++ others := by simp
      have hfirst : fs.node? (l ++ [first]) = some .directory := by
        by_cases hothers : others = []
        · simpa [hothers] using hnode
        · rw [hlower] at hnode
          exact node?_above hothers hnode
      rw [List.map_cons, List.cons_append, walkSteps, if_neg (by simp [hmore]), if_neg hshort,
        hfirst]
      simp only [hmore, if_false]
      rw [hlower] at hnode ⊢
      exact ih (fun name hname => hnames name (by simp [hname])) hnode

theorem walk_workingDirectory (h : HasWorkingDirectory fs) (links : Nat) {steps : List PathStep}
    (hsteps : steps ≠ []) (ends : Bool) :
    walk fs last links fs.workingDirectory
        ⟨true, fs.workingDirectory.map .name ++ steps, ends⟩ =
      walk fs last links fs.workingDirectory ⟨false, steps, ends⟩ := by
  have hfor : stepsFor last ⟨true, fs.workingDirectory.map .name ++ steps, ends⟩ =
      fs.workingDirectory.map .name ++ stepsFor last ⟨false, steps, ends⟩ := by
    unfold stepsFor
    split <;> simp
  have hne : stepsFor last ⟨false, steps, ends⟩ ≠ [] := by
    unfold stepsFor
    split
    · simp
    · exact hsteps
  cases links with
  | zero =>
      rw [walk, walk, hfor]
      exact walkSteps_names (l := []) h.names h.node hne
  | succ links =>
      rw [walk, walk, hfor]
      exact walkSteps_names (l := []) h.names h.node hne

theorem followable_absolute (hnul : '\x00' ∉ p) (hinner : innerOf p ≠ [])
    (hworking : p.isAbsolute = false → HasWorkingDirectory fs)
    (hfits : Utf8.size (p.absolute fs.workingPath) < pathLimit) :
    Followable (p.absolute fs.workingPath) := by
  obtain ⟨front, c, hcs⟩ : ∃ front c, innerOf p = front ++ [c] :=
    (List.eq_nil_or_concat' (innerOf p)).resolve_left hinner
  have hpieces := pieces_absolute p fs.workingPath
  refine ⟨⟨?_, ?_, hfits⟩, ?_⟩
  · intro hzero
    obtain ⟨piece, hpiece, hmem⟩ := exists_piece_of_mem hzero (by decide)
    rw [hpieces, List.mem_append] at hpiece
    rcases hpiece with hstart | hinner
    · exact nul_not_mem_absoluteStart hworking hstart hmem
    · obtain ⟨c, hc, rfl⟩ := List.mem_map.mp hinner
      exact hnul (mem_of_mem_text hc (by decide) hmem)
  · intro hnil
    rw [hnil] at hpieces
    simp [pieces, hinner] at hpieces
  · rw [hpieces, hcs, List.map_append, List.map_cons, List.map_nil, ← List.append_assoc,
      List.getLast?_concat]
    have hc : IsInner c := isInner_of_mem_inner (p := p) (by simp [hcs])
    cases c with
    | root => exact hc.elim
    | current => exact hc.elim
    | parent => decide
    | name text => simpa [Component.text] using IsPiece.dot hc

/-- The absolute form of a path is followed as the path is, whether that is too long or not. -/
theorem place_absolute (hnul : '\x00' ∉ p) (hinner : innerOf p ≠ [])
    (hworking : p.isAbsolute = false → HasWorkingDirectory fs)
    (hfits : Utf8.size (p.absolute fs.workingPath) < pathLimit) :
    fs.place last (p.absolute fs.workingPath) =
      walk fs last linkLimit fs.workingDirectory
        ⟨p.isAbsolute, (innerOf p).map stepOf, p.getLast? = some '/'⟩ := by
  have hslash : decide ((p.absolute fs.workingPath).getLast? = some '/') =
      decide (p.getLast? = some '/') := by
    simp only [getLast?_absolute hinner]
  rw [place_eq_walk (followable_absolute hnul hinner hworking hfits), isAbsolute_absolute,
    inner_absolute, hslash, List.map_append]
  -- the names of the working directory lead from the root to where a relative path starts
  cases habsolute : p.isAbsolute with
  | true =>
      rw [innerOf, pieces_absoluteStart habsolute, List.filterMap_nil, List.map_nil,
        List.nil_append]
  | false =>
      rw [absoluteStart_of_relative habsolute, steps_workingPath (hworking habsolute)]
      exact walk_workingDirectory (hworking habsolute) linkLimit (by simpa using hinner) _

/-- If the parts of a path other than dots and slashes are those of one that leads to a name, then
its absolute form leads there. -/
theorem place_absolute_of_place {q : Path} {parent : Location} {name : Text} {slash : Bool}
    (hnul : '\x00' ∉ p) (habsolute : p.isAbsolute = q.isAbsolute) (hinner : innerOf p = innerOf q)
    (hslash : p.getLast? = some '/' ↔ q.getLast? = some '/') (hne : innerOf p ≠ [])
    (hworking : p.isAbsolute = false → HasWorkingDirectory fs)
    (hfits : Utf8.size (p.absolute fs.workingPath) < pathLimit)
    (h : fs.place last q = .ok (.entry parent name slash)) :
    fs.place last (p.absolute fs.workingPath) = .ok (.entry parent name slash) := by
  rw [place_absolute hnul hne hworking hfits, habsolute, hinner, ← h,
    place_eq_walk (followable_of_place h)]
  simp only [hslash]

end WorkingDirectory

end ShaderTools.Proofs.AbsolutePaths
