import ShaderTools.FileSystem.Action
import ShaderTools.Proofs.PathWalks
import ShaderTools.Proofs.TreeUpdates

/-!
The operations of a file system on an entry of a directory that a path leads to, and on a file one
directory further down. For each the statements say when it succeeds, and what every node is
afterwards.
-/

namespace ShaderTools.Proofs.EntryOperations

open ShaderTools.FileSystem
open ShaderTools.Path
open ShaderTools.Proofs.JoinedPaths
open ShaderTools.Proofs.PathWalks
open ShaderTools.Proofs.TreeUpdates

section Absolute

/-- Whether a path starts nowhere: it is a relative one, and the working directory was removed. -/
def Adrift (fs : FileSystem) (p : Path) : Prop :=
  p.isAbsolute = false ∧ fs.node? fs.workingDirectory ≠ some .directory

variable {fs : FileSystem} {p : Path}

theorem absolute_of_not_adrift (h : ¬Adrift fs p) :
    fs.absolute p = .ok (p.absolute fs.workingPath) := by
  cases habsolute : p.isAbsolute with
  | true =>
      have hsame : p.absolute [] = p.absolute fs.workingPath := by
        simp only [Path.absolute, habsolute, Bool.not_true, Bool.false_eq_true, if_false]
      rw [FileSystem.absolute, if_pos habsolute, hsame]
  | false =>
      have hworking : fs.node? fs.workingDirectory = some .directory := by
        by_contra hgone
        exact h ⟨habsolute, hgone⟩
      rw [FileSystem.absolute, if_neg (by simp [habsolute]), currentDirectory, if_pos hworking]
      rfl

theorem absolute_of_adrift (h : Adrift fs p) : fs.absolute p = .error .notFound := by
  rw [FileSystem.absolute, if_neg (by simp [h.1]), currentDirectory, if_neg h.2]
  rfl

theorem of_absolute_eq_ok {path : Path} (h : fs.absolute p = .ok path) :
    ¬Adrift fs p ∧ p.absolute fs.workingPath = path := by
  rcases Classical.em (Adrift fs p) with hadrift | hanchored
  · simp [absolute_of_adrift hadrift] at h
  · rw [absolute_of_not_adrift hanchored] at h
    exact ⟨hanchored, Except.ok.inj h⟩

theorem adrift_join_iff (p : Path) {name : Text} (hname : IsPiece name) :
    Adrift fs (p.join name) ↔ Adrift fs p := by
  have hsame : (p.join name).isAbsolute = p.isAbsolute := by
    by_cases hp : p = []
    · have hname' : isAbsolute name = false := by
        simp only [isAbsolute, decide_eq_false_iff_not]
        intro hslash
        exact hname.slash (List.mem_of_mem_head? hslash)
      rw [hp, join, if_pos (Or.inl rfl), List.nil_append, hname']
      rfl
    · exact isAbsolute_join hp name
  rw [Adrift, Adrift, hsame]

end Absolute

/-- Whether a file may be written where something lies. -/
def mayBeWritten : Option Node → Bool
  | none => true
  | some (.file mode _) => ownerMayWrite mode
  | some _ => false

/-- The mode of a file that was written where something lay. -/
def writtenMode : Option Node → Nat
  | some (.file mode _) => modeAfterWrite mode
  | _ => newFileMode

def fileIn (directory name : Text) : Path := directory ++ '/' :: name

variable {fs : FileSystem} {p : Path} {d : Location}

theorem path_of_leadsTo (hd : LeadsTo fs p d) :
    p ≠ [] ∧ '\x00' ∉ p ∧ Text.Utf8.size p < pathLimit := by
  have harrival := arrival?_of_status hd.status
  unfold place at harrival
  by_cases hnul : '\x00' ∈ p
  · simp [hnul, arrival?] at harrival
  · by_cases hempty : p = []
    · simp [hempty, arrival?] at harrival
    · by_cases hlong : pathLimit ≤ Text.Utf8.size p
      · simp [hnul, hempty, hlong, arrival?] at harrival
      · exact ⟨hempty, hnul, Nat.lt_of_not_le hlong⟩

section Places

variable {directory name : Text}

theorem nul_not_mem_fileIn (hdirectory : IsName directory) (hname : IsName name) :
    '\x00' ∉ fileIn directory name := by
  simp [fileIn, hdirectory.nul, hname.nul]

theorem pieces_fileIn (hdirectory : IsName directory) (hname : IsName name) :
    (fileIn directory name).pieces = [directory, name] := by
  rw [fileIn, pieces_append_slash, hdirectory.pieces_eq, hname.pieces_eq]
  rfl

theorem getLast?_fileIn (hname : IsName name) :
    (fileIn directory name).getLast? ≠ some '/' := by
  rw [fileIn, List.getLast?_append_of_ne_nil _ (by simp),
    List.getLast?_cons_of_ne_nil hname.nonempty]
  exact hname.getLast?_ne_slash

theorem place_eq_nameTooLong {last : LastName} {relative : Path} (hd : LeadsTo fs p d)
    (hnul : '\x00' ∉ relative) (hlong : pathLimit ≤ Text.Utf8.size (p.join relative)) :
    fs.place last (p.join relative) = .error .nameTooLong := by
  obtain ⟨hp, hzero, -⟩ := path_of_leadsTo hd
  have hzero' : '\x00' ∉ p.join relative := by
    rw [mem_join_iff (by decide)]
    exact not_or.mpr ⟨hzero, hnul⟩
  rw [place, if_neg hzero', if_neg (join_ne_nil hp relative), if_pos hlong]

theorem walkSteps_name {last : LastName} {follow : Location → Route → Except Failure Place}
    {l : Location} (hname : IsName name)
    (hlink : last = .kept ∨ ∀ target, fs.node? (l ++ [name]) ≠ some (.link target)) :
    walkSteps fs last false follow l [.name name] = .ok (.entry l name false) := by
  have hshort : ¬nameLimit < Text.Utf8.size name := Nat.not_lt.mpr hname.short
  rw [walkSteps, if_neg (by simp), if_neg hshort]
  cases hnode : fs.node? (l ++ [name]) with
  | none => rfl
  | some found =>
      cases found with
      | file mode content => rfl
      | directory => rfl
      | link target =>
          rcases hlink with hlast | hnone
          · simp [hlast]
          · exact absurd hnode (hnone target)

theorem walkSteps_directory {last : LastName} {follow : Location → Route → Except Failure Place}
    {l : Location} {rest : List PathStep} (hname : IsName name) (hrest : rest ≠ [])
    (hnode : fs.node? (l ++ [name]) = some .directory) :
    walkSteps fs last false follow l (.name name :: rest) =
      walkSteps fs last false follow (l ++ [name]) rest := by
  have hshort : ¬nameLimit < Text.Utf8.size name := Nat.not_lt.mpr hname.short
  rw [walkSteps, if_neg (by simp), if_neg hshort, hnode]
  simp [hrest]

theorem place_join_name (last : LastName) (hd : LeadsTo fs p d) (hname : IsName name)
    (hfits : Text.Utf8.size (p.join name) < pathLimit)
    (hlink : last = .kept ∨ ∀ target, fs.node? (d ++ [name]) ≠ some (.link target)) :
    fs.place last (p.join name) = .ok (.entry d name false) := by
  obtain ⟨hp, -, -⟩ := path_of_leadsTo hd
  have hcontinues : Continues fs last _ _ _ _ := place_join_continues hp hname.nul
    (by simp [hname.pieces_eq]) (fun _ => hname.getLast?_ne_slash) hfits
  rw [Continues, arrival?_of_status hd.status] at hcontinues
  obtain ⟨follow, hplace⟩ := hcontinues
  rw [hplace, hname.pieces_eq, decide_eq_false hname.getLast?_ne_slash]
  simp only [List.map_cons, List.map_nil, hname.stepOfPiece_eq]
  exact walkSteps_name hname hlink

theorem place_join_fileIn (last : LastName) (hd : LeadsTo fs p d) (hdirectory : IsName directory)
    (hname : IsName name) (hfits : Text.Utf8.size (p.join (fileIn directory name)) < pathLimit)
    (hnode : fs.node? (d ++ [directory]) = some .directory)
    (hlink : last = .kept ∨ ∀ target, fs.node? (d ++ [directory, name]) ≠ some (.link target)) :
    fs.place last (p.join (fileIn directory name)) =
      .ok (.entry (d ++ [directory]) name false) := by
  obtain ⟨hp, -, -⟩ := path_of_leadsTo hd
  have hcontinues : Continues fs last _ _ _ _ := place_join_continues hp
    (nul_not_mem_fileIn hdirectory hname) (by simp [pieces_fileIn hdirectory hname])
    (fun _ => getLast?_fileIn hname) hfits
  rw [Continues, arrival?_of_status hd.status] at hcontinues
  obtain ⟨follow, hplace⟩ := hcontinues
  rw [hplace, pieces_fileIn hdirectory hname, decide_eq_false (getLast?_fileIn hname)]
  simp only [List.map_cons, List.map_nil, hdirectory.stepOfPiece_eq, hname.stepOfPiece_eq]
  rw [walkSteps_directory hdirectory (by simp) hnode]
  exact walkSteps_name hname (by simpa using hlink)

end Places

section Making

variable {name : Text}

theorem makeDirectory_join (hd : LeadsTo fs p d) (hname : IsName name)
    (hfits : Text.Utf8.size (p.join name) < pathLimit) :
    fs.makeDirectory (p.join name) =
      if fs.node? (d ++ [name]) = none then .ok (fs.set (d ++ [name]) (.directory []))
      else .error .exists := by
  simp only [makeDirectory, place_join_name .kept hd hname hfits (Or.inl rfl), bind, Except.bind,
    add_of_directory hd.node]
  cases fs.node? (d ++ [name]) <;> rfl

theorem status_join_name (hd : LeadsTo fs p d) (hname : IsName name)
    (hfits : Text.Utf8.size (p.join name) < pathLimit) {found : Node}
    (hnode : fs.node? (d ++ [name]) = some found) (hlink : ∀ target, found ≠ .link target) :
    fs.status (p.join name) = .ok (d ++ [name], found) := by
  have hplace := place_join_name .followed hd hname hfits
    (Or.inr fun target h => hlink target (by simpa [hnode] using h))
  simp only [status, hplace, bind, Except.bind, hnode]
  rfl

theorem makeDirectories_of_not_missing {path : Path} {failure : Failure} (hpath : path ≠ [])
    (h : fs.makeDirectory path = .error failure) (hfailure : failure ≠ .notFound) :
    makeDirectories path fs =
      if fs.isDirectory path then .ok () fs else .error failure fs := by
  rw [makeDirectories, makeDirectoriesOf, if_neg hpath, makeDirectoryAfter, h]
  cases failure <;> first | rfl | exact absurd rfl hfailure

/-- Making a directory where its parent exists makes that one entry. -/
theorem makeDirectories_join_cases (hd : LeadsTo fs p d) (hname : IsName name)
    (hlink : ∀ target, fs.node? (d ++ [name]) ≠ some (.link target)) :
    (∃ failure, makeDirectories (p.join name) fs = .error failure fs ∧
      (pathLimit ≤ Text.Utf8.size (p.join name) ∨
        ∃ mode content, fs.node? (d ++ [name]) = some (.file mode content))) ∨
    (∃ after, makeDirectories (p.join name) fs = .ok () after ∧
      Text.Utf8.size (p.join name) < pathLimit ∧
      (fs.node? (d ++ [name]) = none ∨ fs.node? (d ++ [name]) = some .directory) ∧
      after.workingDirectory = fs.workingDirectory ∧
      ∀ l, after.node? l = if l = d ++ [name] then some .directory else fs.node? l) := by
  obtain ⟨hp, -, -⟩ := path_of_leadsTo hd
  have hpath : p.join name ≠ [] := join_ne_nil hp name
  rcases Nat.lt_or_ge (Text.Utf8.size (p.join name)) pathLimit with hfits | hlong
  · have hmake := makeDirectory_join hd hname hfits
    cases hnode : fs.node? (d ++ [name]) with
    | none =>
        right
        rw [if_pos hnode] at hmake
        refine ⟨fs.set (d ++ [name]) (.directory []), ?_, hfits, Or.inl rfl, rfl, ?_⟩
        · rw [makeDirectories, makeDirectoriesOf, if_neg hpath, makeDirectoryAfter, hmake]
        · exact node?_set_leaf name (.directory []) hd.node rfl (by simp [hnode])
    | some found =>
        rw [if_neg (by simp [hnode])] at hmake
        have hmakes := makeDirectories_of_not_missing hpath hmake (by simp)
        have hstatus := status_join_name hd hname hfits hnode
          (fun target h => hlink target (by rw [hnode, h]))
        cases found with
        | file mode content =>
            left
            refine ⟨.exists, ?_, Or.inr ⟨mode, content, rfl⟩⟩
            rw [hmakes, if_neg (by simp [FileSystem.isDirectory, hstatus])]
        | link target => exact absurd hnode (hlink target)
        | directory =>
            right
            refine ⟨fs, ?_, hfits, Or.inr rfl, rfl, ?_⟩
            · rw [hmakes, if_pos (by simp [FileSystem.isDirectory, hstatus])]
            · intro l
              split
              · next h => rw [h, hnode]
              · rfl
  · left
    have hmake : fs.makeDirectory (p.join name) = .error .nameTooLong := by
      simp [makeDirectory, place_eq_nameTooLong hd hname.nul hlong, bind, Except.bind]
    have hstatus : fs.status (p.join name) = .error .nameTooLong := by
      simp [status, place_eq_nameTooLong hd hname.nul hlong, bind, Except.bind]
    refine ⟨.nameTooLong, ?_, Or.inl hlong⟩
    rw [makeDirectories_of_not_missing hpath hmake (by simp),
      if_neg (by simp [FileSystem.isDirectory, hstatus])]

end Making

section Files

variable {directory name : Text}

theorem append_pair (l : Location) (first second : Text) :
    l ++ [first, second] = l ++ [first] ++ [second] := by
  simp

theorem overwrite_fileIn_cases (hd : LeadsTo fs p d) (hdirectory : IsName directory)
    (hname : IsName name) (hnode : fs.node? (d ++ [directory]) = some .directory)
    (hlink : ∀ target, fs.node? (d ++ [directory, name]) ≠ some (.link target))
    (content : Bytes) :
    (∃ failure, fs.overwrite (p.join (fileIn directory name)) content = .error failure ∧
      (pathLimit ≤ Text.Utf8.size (p.join (fileIn directory name)) ∨
        mayBeWritten (fs.node? (d ++ [directory, name])) = false)) ∨
    (∃ after, fs.overwrite (p.join (fileIn directory name)) content = .ok after ∧
      Text.Utf8.size (p.join (fileIn directory name)) < pathLimit ∧
      mayBeWritten (fs.node? (d ++ [directory, name])) = true ∧
      after.workingDirectory = fs.workingDirectory ∧
      ∀ l, after.node? l =
        if l = d ++ [directory, name] then
          some (.file (writtenMode (fs.node? (d ++ [directory, name]))) content)
        else fs.node? l) := by
  rcases Nat.lt_or_ge (Text.Utf8.size (p.join (fileIn directory name))) pathLimit with
    hfits | hlong
  · have hplace := place_join_fileIn .made hd hdirectory hname hfits hnode (Or.inr hlink)
    rw [append_pair] at hlink ⊢
    simp only [overwrite, hplace, bind, Except.bind, Bool.false_eq_true, if_false,
      add_of_directory hnode]
    cases hold : fs.node? (d ++ [directory] ++ [name]) with
    | none =>
        have hset := node?_set_leaf name (.file newFileMode content) hnode rfl
          (by rw [hold]; simp)
        exact Or.inr ⟨_, rfl, hfits, rfl, rfl, hset⟩
    | some found =>
        cases found with
        | file mode old =>
            simp only [mayBeWritten, writtenMode]
            cases hwrite : ownerMayWrite mode with
            | false => exact Or.inl ⟨.permissionDenied, rfl, Or.inr rfl⟩
            | true =>
                have hset := node?_set_leaf name (.file (modeAfterWrite mode) content) hnode rfl
                  (by rw [hold]; simp)
                exact Or.inr ⟨_, rfl, hfits, rfl, rfl, hset⟩
        | link target => exact absurd hold (hlink target)
        | directory => exact Or.inl ⟨_, rfl, Or.inr rfl⟩
  · left
    refine ⟨.nameTooLong, ?_, Or.inl hlong⟩
    simp [overwrite, place_eq_nameTooLong hd (nul_not_mem_fileIn hdirectory hname) hlong, bind,
      Except.bind]

theorem setMode_fileIn (hd : LeadsTo fs p d) (hdirectory : IsName directory) (hname : IsName name)
    (hfits : Text.Utf8.size (p.join (fileIn directory name)) < pathLimit)
    (hnode : fs.node? (d ++ [directory]) = some .directory) {old : Nat} {content : Bytes}
    (hfile : fs.node? (d ++ [directory, name]) = some (.file old content)) (mode : Nat) :
    ∃ after, fs.setMode (p.join (fileIn directory name)) mode = .ok after ∧
      after.workingDirectory = fs.workingDirectory ∧
      ∀ l, after.node? l =
        if l = d ++ [directory, name] then some (.file (mode &&& modeMask) content)
        else fs.node? l := by
  have hplace := place_join_fileIn .followed hd hdirectory hname hfits hnode
    (Or.inr (by simp [hfile]))
  rw [append_pair] at hfile ⊢
  have hstatus : fs.status (p.join (fileIn directory name)) =
      .ok (d ++ [directory] ++ [name], .file old content) := by
    simp only [status, hplace, bind, Except.bind, hfile]
    rfl
  have hset := node?_set_leaf name (.file (mode &&& modeMask) content) hnode rfl
    (by rw [hfile]; simp)
  refine ⟨fs.set (d ++ [directory] ++ [name]) (.file (mode &&& modeMask) content), ?_, rfl, hset⟩
  simp only [setMode, hstatus, bind, Except.bind]
  rfl

theorem find?_of_node?_file {l : Location} {mode : Nat} {content : Bytes}
    (h : fs.node? l = some (.file mode content)) :
    fs.tree.find? l = some (.file mode content) := by
  obtain ⟨found, hfound, hnode⟩ := Option.map_eq_some_iff.mp h
  cases found <;> simp_all [Tree.node]

/-- Moving a file to another directory. -/
theorem rename_file {source target : Path} {oldParent newParent : Location}
    {oldName newName : Text}
    (hsource : fs.place .kept source = .ok (.entry oldParent oldName false))
    (htarget : fs.place .kept target = .ok (.entry newParent newName false))
    (hparent : fs.node? newParent = some .directory)
    (habove : ¬newParent ++ [newName] <+: oldParent)
    (hother : oldParent ++ [oldName] ≠ newParent ++ [newName]) {mode : Nat} {content : Bytes}
    (hfile : fs.node? (oldParent ++ [oldName]) = some (.file mode content)) :
    fs.rename source target =
      if fs.node? (newParent ++ [newName]) = some .directory then .error .isDirectory
      else .ok ((fs.erase (oldParent ++ [oldName])).set (newParent ++ [newName])
        (.file mode content)) := by
  have hbelow : ¬oldParent ++ [oldName] <+: newParent :=
    not_prefix_of_directory (by simp [hfile]) hparent
  have hdown : (oldParent ++ [oldName]).isPrefixOf newParent = false := by
    rw [Bool.eq_false_iff, ne_eq, List.isPrefixOf_iff_prefix]
    exact hbelow
  have hup : (newParent ++ [newName]).isPrefixOf oldParent = false := by
    rw [Bool.eq_false_iff, ne_eq, List.isPrefixOf_iff_prefix]
    exact habove
  have hleft : (fs.erase (oldParent ++ [oldName])).node? newParent = some .directory := by
    rw [node?_erase (node?_above (List.cons_ne_nil _ _) hfile), if_neg hbelow]
    exact hparent
  obtain ⟨found?, hfound⟩ : ∃ found?, fs.tree.find? (newParent ++ [newName]) = found? := ⟨_, rfl⟩
  simp only [rename, hsource, htarget, bind, Except.bind, find?_of_node?_file hfile, Tree.node,
    hdown, hup, hother, add_of_directory hleft, FileSystem.node?, Tree.node?, hfound]
  cases found? with
  | none => rfl
  | some found => cases found <;> rfl

theorem node?_moved {oldParent newParent : Location} {oldName newName : Text}
    (hold : fs.node? oldParent = some .directory) (hnew : fs.node? newParent = some .directory)
    (hbelow : ¬oldParent ++ [oldName] <+: newParent)
    {mode : Nat} {content : Bytes}
    (hfile : fs.node? (oldParent ++ [oldName]) = some (.file mode content))
    (hfree : fs.node? (newParent ++ [newName]) ≠ some .directory) (l : Location) :
    ((fs.erase (oldParent ++ [oldName])).set (newParent ++ [newName])
        (.file mode content)).node? l =
      if l = newParent ++ [newName] then some (.file mode content)
      else if l = oldParent ++ [oldName] then none
      else fs.node? l := by
  have herase : ∀ m, (fs.erase (oldParent ++ [oldName])).node? m =
      if m = oldParent ++ [oldName] then none else fs.node? m := by
    intro m
    rw [node?_erase hold]
    rcases Decidable.em (m = oldParent ++ [oldName]) with rfl | hdifferent
    · simp
    · rw [if_neg hdifferent]
      split
      · next hprefix => exact (node?_below_eq_none (by rw [hfile]; simp) hprefix hdifferent).symm
      · rfl
  rw [node?_set_leaf, herase]
  · rfl
  · rw [node?_erase hold, if_neg hbelow]
    exact hnew
  · rfl
  · rw [herase]
    split
    · simp
    · exact hfree

/-- Moving a file up into the directory above its own puts it in place of what is there, unless
that is a directory. -/
theorem rename_fileIn_cases (hd : LeadsTo fs p d) (hdirectory : IsName directory)
    (hname : IsName name) (hne : name ≠ directory)
    (hfits : Text.Utf8.size (p.join (fileIn directory name)) < pathLimit)
    (hnode : fs.node? (d ++ [directory]) = some .directory) {mode : Nat} {content : Bytes}
    (hfile : fs.node? (d ++ [directory, name]) = some (.file mode content)) :
    (∃ failure, fs.rename (p.join (fileIn directory name)) (p.join name) = .error failure ∧
      fs.node? (d ++ [name]) = some .directory) ∨
    (∃ after, fs.rename (p.join (fileIn directory name)) (p.join name) = .ok after ∧
      fs.node? (d ++ [name]) ≠ some .directory ∧
      after.workingDirectory = fs.workingDirectory ∧
      ∀ l, after.node? l =
        if l = d ++ [name] then some (.file mode content)
        else if l = d ++ [directory, name] then none
        else fs.node? l) := by
  have hsize : Text.Utf8.size name ≤ Text.Utf8.size (fileIn directory name) := by
    rw [fileIn, size_append]
    simp only [Text.Utf8.size, List.foldr_cons]
    omega
  have hfits' : Text.Utf8.size (p.join name) < pathLimit :=
    Nat.lt_of_le_of_lt (size_join_le_of_size_le p hsize) hfits
  have hsource := place_join_fileIn .kept hd hdirectory hname hfits hnode (Or.inl rfl)
  have htarget := place_join_name .kept hd hname hfits' (Or.inl rfl)
  rw [append_pair] at hfile ⊢
  have habove : ¬d ++ [name] <+: d ++ [directory] := by
    intro h
    have hsame := h.eq_of_length (by simp)
    simp [hne] at hsame
  have hlength : (d ++ [directory] ++ [name]).length = d.length + 2 := by simp
  have hother : d ++ [directory] ++ [name] ≠ d ++ [name] := by
    intro h
    rw [h] at hlength
    simp at hlength
  have hbelow : ¬d ++ [directory] ++ [name] <+: d := by
    intro h
    have := h.length_le
    omega
  rw [rename_file hsource htarget hd.node habove hother hfile]
  split
  · next hblocked => exact Or.inl ⟨_, rfl, hblocked⟩
  · next hfree =>
      exact Or.inr ⟨_, rfl, hfree, rfl, node?_moved hnode hd.node hbelow hfile hfree⟩

theorem removeDirectory_join_cases (hd : LeadsTo fs p d) (hname : IsName name)
    (hfits : Text.Utf8.size (p.join name) < pathLimit)
    (hnode : fs.node? (d ++ [name]) = some .directory) :
    (∃ failure, fs.removeDirectory (p.join name) = .error failure ∧
      ∃ other, fs.node? (d ++ [name, other]) ≠ none) ∨
    (∃ after, fs.removeDirectory (p.join name) = .ok after ∧
      (∀ other, fs.node? (d ++ [name, other]) = none) ∧
      after.workingDirectory = fs.workingDirectory ∧
      ∀ l, after.node? l = if d ++ [name] <+: l then none else fs.node? l) := by
  have hplace := place_join_name .kept hd hname hfits (Or.inl rfl)
  obtain ⟨entries, hentries⟩ := node?_eq_directory_iff.mp hnode
  have hempty := isEmpty_entries_iff hentries
  simp only [append_pair]
  simp only [removeDirectory, hplace, bind, Except.bind, hentries]
  cases hcase : entries.isEmpty with
  | true => exact Or.inr ⟨_, rfl, hempty.mp hcase, rfl, node?_erase hd.node⟩
  | false =>
      left
      refine ⟨_, rfl, ?_⟩
      by_contra hnone
      rw [hempty.mpr (by simpa using hnone)] at hcase
      simp at hcase

/-- Nothing is removed along a path that leads to no directory. -/
theorem removeDirectory_join_of_astray (hp : p ≠ []) (hname : IsName name)
    (hfits : Text.Utf8.size (p.join name) < pathLimit)
    (hastray : ∀ d, fs.status p ≠ .ok (d, .directory)) :
    ∃ failure, fs.removeDirectory (p.join name) = .error failure := by
  have hcontinues : Continues fs .kept _ _ _ _ := place_join_continues hp hname.nul
    (by simp [hname.pieces_eq]) (fun _ => hname.getLast?_ne_slash) hfits
  have hnone : arrival? fs (fs.place .followed p) = none := by
    rw [Option.eq_none_iff_forall_ne_some]
    intro d hd
    exact hastray d (status_eq_iff_arrival?.mpr hd)
  rw [Continues, hnone] at hcontinues
  obtain ⟨failure, hplace⟩ := hcontinues
  exact ⟨failure, by simp [removeDirectory, hplace, bind, Except.bind]⟩

end Files

end ShaderTools.Proofs.EntryOperations
