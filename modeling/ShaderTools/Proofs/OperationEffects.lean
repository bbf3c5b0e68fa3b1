import ShaderTools.Proofs.InstalledFiles
import ShaderTools.Proofs.WalkEnds

/-!
What an operation that succeeds has done, wherever its path leads: which name the path leads to, and
what every node is afterwards. A property that every directory made keeps is kept while directories
are made.
-/

namespace ShaderTools.Proofs.OperationEffects

open ShaderTools.FileSystem
open ShaderTools.Proofs.PathWalks
open ShaderTools.Proofs.TreeUpdates
open ShaderTools.Proofs.EntryOperations
open ShaderTools.Proofs.InstalledFiles
open ShaderTools.Proofs.WalkEnds

/-- One node is what it says, and no other has changed. -/
structure Puts (fs after : FileSystem) (l : Location) (node? : Option Node) : Prop where
  workingDirectory : after.workingDirectory = fs.workingDirectory
  nodes : ∀ m, after.node? m = if m = l then node? else fs.node? m

/-- A file is in another place, and no other node has changed. -/
structure Moves (fs after : FileSystem) (old new : Location) (file : Node) : Prop where
  workingDirectory : after.workingDirectory = fs.workingDirectory
  nodes : ∀ m, after.node? m =
    if m = new then some file else if m = old then none else fs.node? m

variable {fs after : FileSystem} {p : Path} {parent : Location} {name : Text}

theorem Puts.node?_self {l : Location} {node? : Option Node} (h : Puts fs after l node?) :
    after.node? l = node? := by
  rw [h.nodes, if_pos rfl]

theorem Puts.node?_of_ne {l m : Location} {node? : Option Node} (h : Puts fs after l node?)
    (hm : m ≠ l) : after.node? m = fs.node? m := by
  rw [h.nodes, if_neg hm]

theorem Puts.trans {l : Location} {first? second? : Option Node} (h : Puts fs now l first?)
    (hnext : Puts now after l second?) : Puts fs after l second? := by
  refine ⟨hnext.workingDirectory.trans h.workingDirectory, ?_⟩
  intro m
  rw [hnext.nodes]
  split
  · rfl
  · next hm => exact h.node?_of_ne hm

/-- Directories and links are kept where something is put in place of neither. -/
theorem Puts.keeps {l : Location} {node? : Option Node} (h : Puts fs after l node?)
    (hold : ∀ found, LeadsOn found → fs.node? l ≠ some found) (m : Location) (found : Node)
    (hleads : LeadsOn found) (hm : fs.node? m = some found) : after.node? m = some found := by
  rw [h.node?_of_ne, hm]
  rintro rfl
  exact hold found hleads hm

theorem throw_ne_ok {ε α : Type} (error : ε) (value : α) :
    (throw error : Except ε α) ≠ .ok value := by
  simp [throw, throwThe, MonadExceptOf.throw]

theorem not_leadsOn_file {mode : Nat} {content : Bytes} : ¬LeadsOn (.file mode content) := by
  rintro (h | ⟨target, h⟩) <;> simp at h

/-- Nothing lies below an empty directory. -/
theorem node?_below_empty {l m : Location} (hnone : ∀ other, fs.node? (l ++ [other]) = none)
    (hbelow : l <+: m) (hm : m ≠ l) : fs.node? m = none := by
  obtain ⟨below, rfl⟩ := hbelow
  cases below with
  | nil => exact absurd (List.append_nil l) hm
  | cons other rest =>
      have hother : l ++ [other] <+: l ++ other :: rest := ⟨rest, by simp⟩
      exact node?_below_none (hnone other) hother

section Effects

theorem makeDirectory_ok (h : fs.makeDirectory p = .ok after) :
    ∃ parent name slash, fs.place .kept p = .ok (.entry parent name slash) ∧
      fs.node? (parent ++ [name]) = none ∧
      Puts fs after (parent ++ [name]) (some .directory) := by
  cases hplace : fs.place .kept p with
  | error failure => simp [makeDirectory, hplace, bind, Except.bind] at h
  | ok place =>
      cases place with
      | directory l =>
          simp [makeDirectory, hplace, bind, Except.bind, throw_ne_ok] at h
      | entry parent name slash =>
          simp only [makeDirectory, hplace, bind, Except.bind] at h
          cases hnode : fs.node? (parent ++ [name]) with
          | some found => simp [hnode, throw_ne_ok] at h
          | none =>
              rw [hnode] at h
              obtain ⟨hparent, rfl⟩ := of_add_eq_ok h
              refine ⟨parent, name, slash, rfl, hnode, rfl, ?_⟩
              exact node?_set_leaf name (.directory []) hparent rfl (by rw [hnode]; simp)

theorem overwrite_ok {content : Bytes} (h : fs.overwrite p content = .ok after) :
    ∃ parent name, fs.place .made p = .ok (.entry parent name false) ∧
      mayBeWritten (fs.node? (parent ++ [name])) = true ∧
      Puts fs after (parent ++ [name])
        (some (.file (writtenMode (fs.node? (parent ++ [name]))) content)) := by
  cases hplace : fs.place .made p with
  | error failure => simp [overwrite, hplace, bind, Except.bind] at h
  | ok place =>
      cases place with
      | directory l =>
          simp [overwrite, hplace, bind, Except.bind, throw_ne_ok] at h
      | entry parent name slash =>
          cases slash with
          | true =>
              simp [overwrite, hplace, bind, Except.bind, throw_ne_ok] at h
          | false =>
              refine ⟨parent, name, rfl, ?_⟩
              have hset := fun mode (hparent : fs.node? parent = some .directory) =>
                node?_set_leaf name (.file mode content) hparent rfl
              simp only [overwrite, hplace, bind, Except.bind, Bool.false_eq_true, if_false] at h
              cases hnode : fs.node? (parent ++ [name]) with
              | none =>
                  rw [hnode] at h
                  obtain ⟨hparent, rfl⟩ := of_add_eq_ok h
                  exact ⟨rfl, rfl, hset _ hparent (by rw [hnode]; simp)⟩
              | some found =>
                  cases found with
                  | file mode old =>
                      simp only [hnode] at h
                      split at h
                      · next hmay =>
                          obtain rfl := Except.ok.inj h
                          exact ⟨hmay, rfl, hset _ (node?_above (by simp) hnode)
                            (by rw [hnode]; simp)⟩
                      · simp [throw_ne_ok] at h
                  | link target => simp [hnode, throw_ne_ok] at h
                  | directory => simp [hnode, throw_ne_ok] at h

theorem setMode_ok {mode old : Nat} {content : Bytes}
    (hplace : fs.place .followed p = .ok (.entry parent name false))
    (hparent : fs.node? parent = some .directory)
    (hfile : fs.node? (parent ++ [name]) = some (.file old content))
    (h : fs.setMode p mode = .ok after) :
    Puts fs after (parent ++ [name]) (some (.file (mode &&& modeMask) content)) := by
  have hstatus : fs.status p = .ok (parent ++ [name], .file old content) := by
    simp only [status, hplace, bind, Except.bind, hfile]
    rfl
  simp only [setMode, hstatus, bind, Except.bind] at h
  obtain rfl := Except.ok.inj h
  exact ⟨rfl, node?_set_leaf name (.file (mode &&& modeMask) content) hparent rfl
    (by rw [hfile]; simp)⟩

theorem rename_same {target : Path} {mode : Nat} {content : Bytes}
    (hplace : fs.place .kept p = .ok (.entry parent name false))
    (htarget : fs.place .kept target = .ok (.entry parent name false))
    (hfile : fs.node? (parent ++ [name]) = some (.file mode content)) :
    fs.rename p target = .ok fs := by
  have hdown : (parent ++ [name]).isPrefixOf parent = false := by
    rw [Bool.eq_false_iff, ne_eq, List.isPrefixOf_iff_prefix]
    exact not_prefix_of_directory (by simp [hfile]) (node?_above (by simp) hfile)
  simp only [rename, hplace, htarget, bind, Except.bind, find?_of_node?_file hfile, Tree.node,
    hdown, if_true]
  rfl

theorem rename_above {target : Path} {mode : Nat} {content : Bytes} {newParent : Location}
    {newName : Text} (hplace : fs.place .kept p = .ok (.entry parent name false))
    (htarget : fs.place .kept target = .ok (.entry newParent newName false))
    (hfile : fs.node? (parent ++ [name]) = some (.file mode content))
    (habove : newParent ++ [newName] <+: parent) : fs.rename p target ≠ .ok after := by
  have hup : (newParent ++ [newName]).isPrefixOf parent = true :=
    List.isPrefixOf_iff_prefix.mpr habove
  simp only [rename, hplace, htarget, bind, Except.bind, find?_of_node?_file hfile, Tree.node, hup,
    if_true]
  split
  · simp [throw_ne_ok]
  · split <;> simp [throw_ne_ok]

/-- What is moved to another name arrives in a directory. -/
theorem directory_of_rename_ok {target : Path} {mode : Nat} {content : Bytes}
    {newParent : Location} {newName : Text}
    (hplace : fs.place .kept p = .ok (.entry parent name false))
    (htarget : fs.place .kept target = .ok (.entry newParent newName false))
    (hfile : fs.node? (parent ++ [name]) = some (.file mode content))
    (hother : parent ++ [name] ≠ newParent ++ [newName]) (h : fs.rename p target = .ok after) :
    fs.node? newParent = some .directory := by
  cases hfound : fs.tree.find? (newParent ++ [newName]) with
  | some found =>
      have hnode : fs.node? (newParent ++ [newName]) = some found.node := by
        rw [FileSystem.node?, Tree.node?, hfound]
        rfl
      exact node?_above (by simp) hnode
  | none =>
      simp only [rename, hplace, htarget, bind, Except.bind, find?_of_node?_file hfile, Tree.node,
        if_neg hother, hfound] at h
      split at h
      · simp [throw_ne_ok] at h
      · split at h
        · simp [throw_ne_ok] at h
        · split at h
          · simp [throw_ne_ok] at h
          · obtain ⟨hdirectory, -⟩ := of_add_eq_ok h
            rw [node?_erase (node?_above (by simp) hfile)] at hdirectory
            split at hdirectory
            · simp at hdirectory
            · exact hdirectory

/-- A file that was moved is where its new path leads to, in place of no directory. -/
theorem rename_ok {target : Path} {mode : Nat} {content : Bytes}
    (hplace : fs.place .kept p = .ok (.entry parent name false))
    (hfile : fs.node? (parent ++ [name]) = some (.file mode content))
    (h : fs.rename p target = .ok after) :
    ∃ newParent newName, fs.place .kept target = .ok (.entry newParent newName false) ∧
      fs.node? (newParent ++ [newName]) ≠ some .directory ∧
      Moves fs after (parent ++ [name]) (newParent ++ [newName]) (.file mode content) := by
  have hparent : fs.node? parent = some .directory := node?_above (by simp) hfile
  cases htarget : fs.place .kept target with
  | error failure => simp [rename, hplace, htarget, bind, Except.bind] at h
  | ok place =>
      cases place with
      | directory l =>
          simp [rename, hplace, htarget, bind, Except.bind, throw_ne_ok] at h
      | entry newParent newName slash =>
          cases slash with
          | true =>
              simp [rename, hplace, htarget, bind, Except.bind, throw_ne_ok,
                find?_of_node?_file hfile, Tree.node] at h
          | false =>
              refine ⟨newParent, newName, rfl, ?_⟩
              by_cases hsame : parent ++ [name] = newParent ++ [newName]
              · obtain ⟨rfl, hname⟩ := List.append_inj' hsame rfl
                obtain rfl := List.singleton_inj.mp hname
                rw [rename_same hplace htarget hfile] at h
                obtain rfl := Except.ok.inj h
                refine ⟨by simp [hfile], rfl, ?_⟩
                intro m
                split
                · next hm => rw [hm, hfile]
                · rfl
              · have habove : ¬newParent ++ [newName] <+: parent := fun habove =>
                  rename_above hplace htarget hfile habove h
                have hnew := directory_of_rename_ok hplace htarget hfile hsame h
                rw [rename_file hplace htarget hnew habove hsame hfile] at h
                split at h
                · simp at h
                · next hfree =>
                    obtain rfl := Except.ok.inj h
                    exact ⟨hfree, rfl, node?_moved hparent hnew
                      (not_prefix_of_directory (by simp [hfile]) hnew) hfile hfree⟩

theorem removeDirectory_ok (h : fs.removeDirectory p = .ok after) :
    ∃ parent name slash, fs.place .kept p = .ok (.entry parent name slash) ∧
      fs.node? (parent ++ [name]) = some .directory ∧
      (∀ other, fs.node? (parent ++ [name] ++ [other]) = none) ∧
      Puts fs after (parent ++ [name]) none := by
  cases hplace : fs.place .kept p with
  | error failure => simp [removeDirectory, hplace, bind, Except.bind] at h
  | ok place =>
      cases place with
      | directory l =>
          simp only [removeDirectory, hplace, bind, Except.bind] at h
          split at h <;> simp [throw_ne_ok] at h
      | entry parent name slash =>
          simp only [removeDirectory, hplace, bind, Except.bind] at h
          split at h
          · simp [throw_ne_ok] at h
          · next entries hentries =>
              split at h
              · next hempty =>
                  obtain rfl := Except.ok.inj h
                  have hnode := node?_eq_directory_iff.mpr ⟨entries, hentries⟩
                  have hnone := (isEmpty_entries_iff hentries).mp hempty
                  refine ⟨parent, name, slash, rfl, hnode, hnone, rfl, ?_⟩
                  intro m
                  rw [node?_erase (node?_above (by simp) hnode)]
                  by_cases hm : m = parent ++ [name]
                  · simp [hm]
                  · rw [if_neg hm]
                    split
                    · next hbelow => exact (node?_below_empty hnone hbelow hm).symm
                    · rfl
              · simp [throw_ne_ok] at h
          · simp [throw_ne_ok] at h

end Effects

section MadeFiles

variable {mode mode' : Nat} {content : Bytes}

/-- A path by which a file can be made leads to one. -/
structure LeadsToFile (fs : FileSystem) (p : Path) (parent : Location) (name : Text) (mode : Nat)
    (content : Bytes) : Prop where
  place : fs.place .made p = .ok (.entry parent name false)
  file : fs.node? (parent ++ [name]) = some (.file mode content)

theorem LeadsToFile.directory (h : LeadsToFile fs p parent name mode content) :
    fs.node? parent = some .directory :=
  node?_above (by simp) h.file

theorem leadsToFile_of_puts (hplace : fs.place .made p = .ok (.entry parent name false))
    (hold : ∀ found, LeadsOn found → fs.node? (parent ++ [name]) ≠ some found)
    (h : Puts fs after (parent ++ [name]) (some (.file mode content))) :
    LeadsToFile after p parent name mode content :=
  ⟨place_of_keeps (h.keeps hold) h.workingDirectory (by simp [h.node?_self]) hplace, h.node?_self⟩

theorem LeadsToFile.not_leadsOn (h : LeadsToFile fs p parent name mode content) (found : Node)
    (hleads : LeadsOn found) : fs.node? (parent ++ [name]) ≠ some found := by
  rw [h.file]
  rintro hfile
  obtain rfl := Option.some.inj hfile
  exact not_leadsOn_file hleads

theorem not_leadsOn_of_mayBeWritten {old? : Option Node} (h : mayBeWritten old? = true)
    (found : Node) (hleads : LeadsOn found) : old? ≠ some found := by
  rintro rfl
  rcases hleads with rfl | ⟨target, rfl⟩ <;> simp [mayBeWritten] at h

theorem leadsToFile_overwrite (h : fs.overwrite p content = .ok after) :
    ∃ parent name, fs.place .made p = .ok (.entry parent name false) ∧
      (∀ found, LeadsOn found → fs.node? (parent ++ [name]) ≠ some found) ∧
      ∃ mode, Puts fs after (parent ++ [name]) (some (.file mode content)) ∧
        LeadsToFile after p parent name mode content := by
  obtain ⟨parent, name, hplace, hmay, hputs⟩ := overwrite_ok h
  have hold := not_leadsOn_of_mayBeWritten hmay
  exact ⟨parent, name, hplace, hold, _, hputs, leadsToFile_of_puts hplace hold hputs⟩

theorem LeadsToFile.setMode_ok (h : LeadsToFile fs p parent name mode content)
    (hset : fs.setMode p mode' = .ok after) :
    Puts fs after (parent ++ [name]) (some (.file (mode' &&& modeMask) content)) ∧
      LeadsToFile after p parent name (mode' &&& modeMask) content := by
  have hputs := OperationEffects.setMode_ok (place_of_made h.place).1 h.directory h.file hset
  exact ⟨hputs, leadsToFile_of_puts h.place h.not_leadsOn hputs⟩

end MadeFiles

section Directories

variable {P : FileSystem → Prop}

theorem filesAfter_makeDirectoryAfter {makeAbove : FileAction Failure Unit}
    (hmake : ∀ now after, P now → now.makeDirectory p = .ok after → P after)
    (habove : fs.makeDirectory p = .error .notFound → P (filesAfter (makeAbove fs)))
    (h : P fs) : P (filesAfter (makeDirectoryAfter makeAbove p fs)) := by
  unfold makeDirectoryAfter
  cases hmade : fs.makeDirectory p with
  | ok after => exact hmake fs after h hmade
  | error failure =>
      by_cases hmissing : failure = .notFound
      · subst hmissing
        have hup := habove hmade
        simp only
        cases hresult : makeAbove fs with
        | error failure now =>
            rw [hresult] at hup
            exact hup
        | ok value now =>
            rw [hresult] at hup
            simp only
            cases hagain : now.makeDirectory p with
            | ok made => exact hmake now made hup hagain
            | error failure =>
                simp only
                split <;> exact hup
      · have hkept : P (filesAfter (if fs.isDirectory p = true then EStateM.Result.ok () fs
            else EStateM.Result.error failure fs)) := by
          split <;> exact h
        cases failure <;> first | exact hkept | exact absurd rfl hmissing

theorem filesAfter_makeDirectories {paths : List Path}
    (hmake : ∀ p ∈ paths, ∀ now after, P now → now.makeDirectory p = .ok after → P after)
    (h : P fs) : P (filesAfter (makeDirectoriesOf paths fs)) := by
  induction paths generalizing fs with
  | nil => exact h
  | cons p above ih =>
      rw [makeDirectoriesOf]
      split
      · exact h
      · refine filesAfter_makeDirectoryAfter (hmake p (by simp)) (fun _ => ih ?_ h) h
        intro q hq
        exact hmake q (List.mem_cons_of_mem p hq)

end Directories

section WorkingDirectories

variable {target : Path} {mode : Nat} {content : Bytes}

theorem workingDirectory_makeDirectory (h : fs.makeDirectory p = .ok after) :
    after.workingDirectory = fs.workingDirectory := by
  simp only [makeDirectory, bind, Except.bind] at h
  repeat' split at h
  all_goals first
    | (obtain ⟨-, rfl⟩ := of_add_eq_ok h; rfl)
    | simp [throw_ne_ok] at h

theorem workingDirectory_overwrite (h : fs.overwrite p content = .ok after) :
    after.workingDirectory = fs.workingDirectory := by
  simp only [overwrite, bind, Except.bind] at h
  repeat' split at h
  all_goals first
    | (obtain ⟨-, rfl⟩ := of_add_eq_ok h; rfl)
    | (obtain rfl := Except.ok.inj h; rfl)
    | simp [throw_ne_ok] at h

theorem workingDirectory_setMode (h : fs.setMode p mode = .ok after) :
    after.workingDirectory = fs.workingDirectory := by
  simp only [setMode, bind, Except.bind] at h
  repeat' split at h
  all_goals first
    | (obtain rfl := Except.ok.inj h; rfl)
    | simp at h

theorem workingDirectory_rename (h : fs.rename p target = .ok after) :
    after.workingDirectory = fs.workingDirectory := by
  simp only [rename, bind, Except.bind] at h
  repeat' split at h
  all_goals first
    | (obtain ⟨-, rfl⟩ := of_add_eq_ok h; rfl)
    | (obtain rfl := Except.ok.inj h; rfl)
    | simp [throw_ne_ok] at h

theorem workingDirectory_removeDirectory (h : fs.removeDirectory p = .ok after) :
    after.workingDirectory = fs.workingDirectory := by
  simp only [removeDirectory, bind, Except.bind] at h
  repeat' split at h
  all_goals first
    | (obtain rfl := Except.ok.inj h; rfl)
    | simp [throw_ne_ok] at h

end WorkingDirectories

end ShaderTools.Proofs.OperationEffects
