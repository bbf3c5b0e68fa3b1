import ShaderTools.Proofs.InstallSteps

/-!
What installing the validator of a platform comes to. The step that fails, if one does, decides
what every node is afterwards, and the conditions under which each step fails are conditions on
the files before the installation.
-/

namespace ShaderTools.Proofs.InstallOutcomes

open ShaderTools.FileSystem
open ShaderTools.Install
open ShaderTools.Proofs.JoinedPaths
open ShaderTools.Proofs.PathWalks
open ShaderTools.Proofs.TreeUpdates
open ShaderTools.Proofs.EntryOperations
open ShaderTools.Proofs.InstallSteps

/-- Where the directory for staging lies. -/
def stagingPlace (d : Location) : Location := d ++ [stagingName]

def stagedPlace (d : Location) (p : Platform) : Location := d ++ [stagingName, p.fileName]

/-- Where the validator ends up. -/
def installedPlace (d : Location) (p : Platform) : Location := d ++ [p.fileName]

theorem stagedPlace_ne_stagingPlace (d : Location) (p : Platform) :
    stagedPlace d p ≠ stagingPlace d := by
  simp [stagedPlace, stagingPlace]

theorem installedPlace_ne_stagingPlace (d : Location) (p : Platform) :
    installedPlace d p ≠ stagingPlace d := by
  simp [installedPlace, stagingPlace, fileName_ne_stagingName]

theorem installedPlace_ne_stagedPlace (d : Location) (p p' : Platform) :
    installedPlace d p ≠ stagedPlace d p' := by
  simp [installedPlace, stagedPlace]

theorem not_stagingPlace_prefix_installedPlace (d : Location) (p : Platform) :
    ¬stagingPlace d <+: installedPlace d p := by
  intro h
  exact installedPlace_ne_stagingPlace d p
    (h.eq_of_length (by simp [stagingPlace, installedPlace])).symm

/-- The mode of a file that is installed: the one that the archive gives, or else the one it got
when it was staged where something lay. -/
def fileMode (mode? : Option Nat) (old? : Option Node) : Nat :=
  match mode? with
  | some mode => mode &&& modeMask
  | none => writtenMode old?

section Nodes

variable (fs : FileSystem) (d : Location) (p : Platform) (mode : Nat) (content : Bytes)

/-- The nodes once there is a directory for staging. -/
def preparedNodes (l : Location) : Option Node :=
  if l = stagingPlace d then some .directory else fs.node? l

/-- The nodes once a file is staged. -/
def stagedNodes (l : Location) : Option Node :=
  if l = stagedPlace d p then some (.file mode content) else preparedNodes fs d l

/-- The nodes once the staged file is moved. -/
def movedNodes (l : Location) : Option Node :=
  if l = installedPlace d p then some (.file mode content)
  else if l = stagedPlace d p then none
  else preparedNodes fs d l

/-- The nodes once the directory for staging is removed, too. -/
def installedNodes (l : Location) : Option Node :=
  if l = installedPlace d p then some (.file mode content)
  else if stagingPlace d <+: l then none
  else fs.node? l

variable {fs d p mode content}

theorem preparedNodes_stagingPlace : preparedNodes fs d (stagingPlace d) = some .directory :=
  if_pos rfl

theorem preparedNodes_of_ne {l : Location} (hl : l ≠ stagingPlace d) :
    preparedNodes fs d l = fs.node? l := if_neg hl

theorem stagedNodes_stagedPlace :
    stagedNodes fs d p mode content (stagedPlace d p) = some (.file mode content) := if_pos rfl

theorem stagedNodes_of_ne {l : Location} (hl : l ≠ stagedPlace d p) :
    stagedNodes fs d p mode content l = preparedNodes fs d l := if_neg hl

theorem stagedNodes_stagingPlace :
    stagedNodes fs d p mode content (stagingPlace d) = some .directory := by
  rw [stagedNodes_of_ne (stagedPlace_ne_stagingPlace d p).symm, preparedNodes_stagingPlace]

theorem stagedNodes_installedPlace (m : Location) :
    stagedNodes fs d p mode content (installedPlace d p ++ m) =
      fs.node? (installedPlace d p ++ m) := by
  rw [stagedNodes_of_ne, preparedNodes_of_ne]
  · simp [installedPlace, stagingPlace, fileName_ne_stagingName]
  · simp [installedPlace, stagedPlace, fileName_ne_stagingName]

theorem movedNodes_installedPlace :
    movedNodes fs d p mode content (installedPlace d p) = some (.file mode content) := if_pos rfl

theorem movedNodes_stagedPlace : movedNodes fs d p mode content (stagedPlace d p) = none := by
  rw [movedNodes, if_neg (installedPlace_ne_stagedPlace d p p).symm, if_pos rfl]

theorem movedNodes_of_ne {l : Location} (hinstalled : l ≠ installedPlace d p)
    (hstaged : l ≠ stagedPlace d p) :
    movedNodes fs d p mode content l = preparedNodes fs d l := by
  rw [movedNodes, if_neg hinstalled, if_neg hstaged]

theorem movedNodes_stagingPlace :
    movedNodes fs d p mode content (stagingPlace d) = some .directory := by
  rw [movedNodes_of_ne (installedPlace_ne_stagingPlace d p).symm
    (stagedPlace_ne_stagingPlace d p).symm, preparedNodes_stagingPlace]

end Nodes

/-- A file system with the working directory of another one and the given nodes. -/
def Shows (fs after : FileSystem) (nodes : Location → Option Node) : Prop :=
  after.workingDirectory = fs.workingDirectory ∧ ∀ l, after.node? l = nodes l

/-- Whether the validator of a platform can be staged. -/
structure CanStage (fs : FileSystem) (p : Platform) (destination : Path) (d : Location) : Prop where
  fits : Text.Utf8.size (destination.join p.entryName) < pathLimit
  free : fs.node? (stagingPlace d) = none ∨ fs.node? (stagingPlace d) = some .directory
  writable : mayBeWritten (fs.node? (stagedPlace d p)) = true

/-- Whether the directory for staging can be removed once the validator is moved out of it: the
destination does not lead through a link that the validator has replaced, and nothing else is in
that directory. -/
structure CanClear (fs : FileSystem) (p : Platform) (destination : Path) (d : Location) : Prop where
  leads : LeadsTo (fs.erase (installedPlace d p)) destination d
  alone : ∀ name, name ≠ p.fileName → fs.node? (d ++ [stagingName, name]) = none

/-- Whether the destination starts nowhere once the directory for staging is removed: it is a
relative path, and the working directory is that one, or was removed before. -/
def Unmoored (fs : FileSystem) (destination : Path) (d : Location) : Prop :=
  destination.isAbsolute = false ∧
    (fs.node? fs.workingDirectory ≠ some .directory ∨ fs.workingDirectory = stagingPlace d)

/-- How an installation can end: the step that fails, if one does, and the files. -/
inductive Installation (fs : FileSystem) (p : Platform) (destination : Path) (d : Location)
    (mode? : Option Nat) (payload : Archive.Payload) : Option Step → FileSystem → Prop where
  | unprepared (hblocked : ¬CanStage fs p destination d) :
      Installation fs p destination d mode? payload
        (some (.change (.makeDirectories (destination.join stagingName)))) fs
  | unstaged {after : FileSystem} (hblocked : ¬CanStage fs p destination d)
      (hfree : fs.node? (stagingPlace d) = none ∨ fs.node? (stagingPlace d) = some .directory)
      (hafter : Shows fs after (preparedNodes fs d)) :
      Installation fs p destination d mode? payload
        (some (.change (.overwrite (destination.join p.entryName) payload.bytes))) after
  | faulty {fault : Archive.DataFault} {after : FileSystem} (hstage : CanStage fs p destination d)
      (hfault : payload.fault = some fault)
      (hafter : Shows fs after (stagedNodes fs d p (writtenMode (fs.node? (stagedPlace d p)))
        payload.bytes)) :
      Installation fs p destination d mode? payload (some (.fault fault)) after
  | unmoved {after : FileSystem} (hstage : CanStage fs p destination d)
      (hfault : payload.fault = none) (hblocked : fs.node? (installedPlace d p) = some .directory)
      (hafter : Shows fs after (stagedNodes fs d p
        (fileMode mode? (fs.node? (stagedPlace d p))) payload.bytes)) :
      Installation fs p destination d mode? payload
        (some (.change (.rename (destination.join p.entryName) (destination.join p.fileName))))
        after
  | uncleared {after : FileSystem} (hstage : CanStage fs p destination d)
      (hfault : payload.fault = none) (hfree : fs.node? (installedPlace d p) ≠ some .directory)
      (hblocked : ¬CanClear fs p destination d)
      (hafter : Shows fs after (movedNodes fs d p
        (fileMode mode? (fs.node? (stagedPlace d p))) payload.bytes)) :
      Installation fs p destination d mode? payload
        (some (.change (.removeDirectory (destination.join stagingName)))) after
  | installed {after : FileSystem} (hstage : CanStage fs p destination d)
      (hfault : payload.fault = none) (hfree : fs.node? (installedPlace d p) ≠ some .directory)
      (hclear : CanClear fs p destination d)
      (hafter : Shows fs after (installedNodes fs d p
        (fileMode mode? (fs.node? (stagedPlace d p))) payload.bytes)) :
      Installation fs p destination d mode? payload none after

variable {fs after : FileSystem} {p : Platform} {destination : Path} {d : Location}

section Keeping

theorem leadsTo_of_shows {nodes : Location → Option Node} (hd : LeadsTo fs destination d)
    (hafter : Shows fs after nodes)
    (hkeeps : ∀ l found, LeadsOn found → fs.node? l = some found → nodes l = some found) :
    LeadsTo after destination d where
  status := status_of_keeps (fun l found hleads hnode => by
    rw [hafter.2]
    exact hkeeps l found hleads hnode) hafter.1 hd.status
  node := by
    rw [hafter.2]
    exact hkeeps d .directory (Or.inl rfl) hd.node

theorem preparedNodes_of_leadsOn
    (hfree : fs.node? (stagingPlace d) = none ∨ fs.node? (stagingPlace d) = some .directory)
    (l : Location) (found : Node) (hnode : fs.node? l = some found) :
    preparedNodes fs d l = some found := by
  unfold preparedNodes
  split
  · next hl =>
      rw [hl] at hnode
      rcases hfree with hnone | hdirectory
      · rw [hnone] at hnode
        simp at hnode
      · rw [← hnode, hdirectory]
  · exact hnode

theorem ne_stagedPlace_of_leadsOn (hstage : CanStage fs p destination d) {l : Location}
    {found : Node} (hleads : LeadsOn found) (hnode : fs.node? l = some found) :
    l ≠ stagedPlace d p := by
  rintro rfl
  have hwritable := hstage.writable
  rw [hnode] at hwritable
  rcases hleads with rfl | ⟨target, rfl⟩ <;> simp [mayBeWritten] at hwritable

theorem stagedNodes_of_leadsOn (hstage : CanStage fs p destination d) (mode : Nat)
    (content : Bytes) (l : Location) (found : Node) (hleads : LeadsOn found)
    (hnode : fs.node? l = some found) : stagedNodes fs d p mode content l = some found := by
  rw [stagedNodes_of_ne (ne_stagedPlace_of_leadsOn hstage hleads hnode)]
  exact preparedNodes_of_leadsOn hstage.free l found hnode

theorem movedNodes_of_leadsOn (hstage : CanStage fs p destination d) (mode : Nat)
    (content : Bytes) {l : Location} {found : Node} (hl : l ≠ installedPlace d p)
    (hleads : LeadsOn found) (hnode : fs.node? l = some found) :
    movedNodes fs d p mode content l = some found := by
  rw [movedNodes_of_ne hl (ne_stagedPlace_of_leadsOn hstage hleads hnode)]
  exact preparedNodes_of_leadsOn hstage.free l found hnode

end Keeping

/-- The ending of the steps that are left is that of an installation. -/
def Concludes (fs : FileSystem) (p : Platform) (destination : Path) (d : Location)
    (mode? : Option Nat) (payload : Archive.Payload) (steps : List Step) (now : FileSystem) :
    Prop :=
  Installation fs p destination d mode? payload ((ending steps now).1.map Prod.fst)
    (ending steps now).2

section Steps

variable {now : FileSystem} {mode? : Option Nat} {payload : Archive.Payload}

theorem node?_erase_installedPlace (hd : LeadsTo fs destination d) (l : Location) :
    (fs.erase (installedPlace d p)).node? l =
      if installedPlace d p <+: l then none else fs.node? l :=
  node?_erase hd.node l

theorem installedPlace_not_above (d : Location) (p : Platform) : ¬installedPlace d p <+: d := by
  intro h
  have hlength := h.length_le
  simp only [installedPlace, List.length_append, List.length_singleton] at hlength
  omega

theorem leadsTo_of_movedNodes {mode : Nat} {content : Bytes} (hd : LeadsTo fs destination d)
    (hstage : CanStage fs p destination d) (hnow : Shows fs now (movedNodes fs d p mode content))
    (hleads : LeadsTo (fs.erase (installedPlace d p)) destination d) :
    LeadsTo now destination d := by
  have hkeeps : ∀ l found, LeadsOn found →
      (fs.erase (installedPlace d p)).node? l = some found → now.node? l = some found := by
    intro l found hfound hnode
    rw [node?_erase_installedPlace hd] at hnode
    split at hnode
    · simp at hnode
    · next hl =>
        rw [hnow.2]
        apply movedNodes_of_leadsOn hstage mode content _ hfound hnode
        rintro rfl
        exact hl (List.prefix_refl _)
  exact ⟨status_of_keeps hkeeps hnow.1 hleads.status, hkeeps _ _ (Or.inl rfl) hleads.node⟩

/-- A file in place of a link that the destination leads through leads it astray. -/
theorem astray_of_movedNodes {mode : Nat} {content : Bytes} (hd : LeadsTo fs destination d)
    (hstage : CanStage fs p destination d)
    (hfree : fs.node? (installedPlace d p) ≠ some .directory)
    (hnow : Shows fs now (movedNodes fs d p mode content))
    (hastray : ¬LeadsTo (fs.erase (installedPlace d p)) destination d) (d' : Location) :
    now.status destination ≠ .ok (d', .directory) := by
  intro harrives
  -- only the replaced link can tell the two apart, and a walk that meets it ends there
  have hagree : AgreeAlong fs now (fs.erase (installedPlace d p)) := by
    intro l found hfound hnode
    rcases Decidable.em (l = installedPlace d p) with rfl | hl
    · right
      intro other hother
      rw [hnow.2, movedNodes_installedPlace]
      rcases hother with rfl | ⟨target, rfl⟩ <;> simp
    · left
      constructor
      · rw [hnow.2]
        exact movedNodes_of_leadsOn hstage mode content hl hfound hnode
      · rw [node?_erase_installedPlace hd, if_neg]
        · exact hnode
        · intro hbelow
          rw [node?_below_eq_none hfree hbelow hl] at hnode
          simp at hnode
  have hleads := (status_of_agreeAlong hagree hnow.1 rfl hd.status harrives).1
  refine hastray ⟨hleads, ?_⟩
  rw [node?_erase_installedPlace hd, if_neg (installedPlace_not_above d p)]
  exact hd.node

theorem installedNodes_eq (fs : FileSystem) (d : Location) (p : Platform) (mode : Nat)
    (content : Bytes) (l : Location) :
    installedNodes fs d p mode content l =
      if stagingPlace d <+: l then none else movedNodes fs d p mode content l := by
  rcases Decidable.em (stagingPlace d <+: l) with hbelow | hapart
  · rw [installedNodes, if_pos hbelow, if_pos hbelow, if_neg]
    rintro rfl
    exact not_stagingPlace_prefix_installedPlace d p hbelow
  · have hstaging : l ≠ stagingPlace d := by
      rintro rfl
      exact hapart (List.prefix_refl _)
    have hstaged : l ≠ stagedPlace d p := by
      rintro rfl
      exact hapart (by simp [stagingPlace, stagedPlace])
    rw [installedNodes, movedNodes, preparedNodes, if_neg hapart, if_neg hapart, if_neg hstaged,
      if_neg hstaging]

theorem size_join_stagingName_lt (hstage : CanStage fs p destination d) :
    Text.Utf8.size (destination.join stagingName) < pathLimit := by
  have hsize : Text.Utf8.size stagingName ≤ Text.Utf8.size p.entryName := by
    cases p <;> decide
  exact Nat.lt_of_le_of_lt (size_join_le_of_size_le destination hsize) hstage.fits

theorem concludes_of_movedNodes (hd : LeadsTo fs destination d)
    (hstage : CanStage fs p destination d) (hfault : payload.fault = none)
    (hfree : fs.node? (installedPlace d p) ≠ some .directory)
    (hnow : Shows fs now (movedNodes fs d p (fileMode mode? (fs.node? (stagedPlace d p)))
      payload.bytes)) :
    Concludes fs p destination d mode? payload
      [.change (.removeDirectory (destination.join stagingName))] now := by
  obtain ⟨hdestination, -, -⟩ := path_of_leadsTo hd
  have hfits := size_join_stagingName_lt hstage
  rcases Classical.em (LeadsTo (fs.erase (installedPlace d p)) destination d) with hleads | hastray
  · have hd' := leadsTo_of_movedNodes hd hstage hnow hleads
    have hstaging : now.node? (d ++ [stagingName]) = some .directory := by
      exact (hnow.2 _).trans movedNodes_stagingPlace
    have hinside : ∀ other, now.node? (d ++ [stagingName, other]) =
        if other = p.fileName then none else fs.node? (d ++ [stagingName, other]) := by
      intro other
      simp [hnow.2, movedNodes, preparedNodes, installedPlace, stagedPlace, stagingPlace]
    rcases removeDirectory_join_cases hd' isName_stagingName hfits hstaging with
      ⟨failure, hremove, other, hother⟩ | ⟨after, hremove, hnone, hworking, hafter⟩
    · have hstep : (FileChange.removeDirectory (destination.join stagingName)).perform now =
          .error failure now := by
        simp only [FileChange.perform, FileAction.perform, hremove]
      rw [Concludes, ending_change_of_error hstep]
      refine .uncleared hstage hfault hfree ?_ hnow
      intro hclear
      rw [hinside] at hother
      split at hother
      · exact hother rfl
      · next hname => exact hother (hclear.alone other hname)
    · have hstep : (FileChange.removeDirectory (destination.join stagingName)).perform now =
          .ok () after := by
        simp only [FileChange.perform, FileAction.perform, hremove]
      rw [Concludes, ending_change_of_ok hstep]
      refine .installed hstage hfault hfree ⟨hleads, ?_⟩ ⟨hworking.trans hnow.1, ?_⟩
      · intro name hname
        have halone := hnone name
        rw [hinside, if_neg hname] at halone
        exact halone
      · intro l
        rw [installedNodes_eq, ← hnow.2]
        exact hafter l
  · have hlost := astray_of_movedNodes hd hstage hfree hnow hastray
    obtain ⟨failure, hremove⟩ := removeDirectory_join_of_astray hdestination isName_stagingName
      hfits hlost
    have hstep : (FileChange.removeDirectory (destination.join stagingName)).perform now =
        .error failure now := by
      simp only [FileChange.perform, FileAction.perform, hremove]
    rw [Concludes, ending_change_of_error hstep]
    exact .uncleared hstage hfault hfree (fun hclear => hastray hclear.leads) hnow

theorem stagingPlace_of_stagedNodes {mode : Nat} {content : Bytes}
    (hnow : Shows fs now (stagedNodes fs d p mode content)) :
    now.node? (stagingPlace d) = some .directory := by
  rw [hnow.2, stagedNodes_stagingPlace]

theorem stagedPlace_of_stagedNodes {mode : Nat} {content : Bytes}
    (hnow : Shows fs now (stagedNodes fs d p mode content)) :
    now.node? (stagedPlace d p) = some (.file mode content) :=
  (hnow.2 _).trans stagedNodes_stagedPlace

theorem concludes_of_stagedNodes (hd : LeadsTo fs destination d)
    (hstage : CanStage fs p destination d) (hfault : payload.fault = none)
    (hnow : Shows fs now (stagedNodes fs d p (fileMode mode? (fs.node? (stagedPlace d p)))
      payload.bytes)) :
    Concludes fs p destination d mode? payload
      [.change (.rename (destination.join p.entryName) (destination.join p.fileName)),
        .change (.removeDirectory (destination.join stagingName))] now := by
  have hd' := leadsTo_of_shows hd hnow (stagedNodes_of_leadsOn hstage _ _)
  have hfits := hstage.fits
  rw [entryName_eq] at hfits ⊢
  have hfinal : now.node? (installedPlace d p) = fs.node? (installedPlace d p) := by
    rw [hnow.2, stagedNodes_of_ne (installedPlace_ne_stagedPlace d p p),
      preparedNodes_of_ne (installedPlace_ne_stagingPlace d p)]
  rcases rename_fileIn_cases hd' isName_stagingName (isName_fileName p)
    (fileName_ne_stagingName p) hfits (stagingPlace_of_stagedNodes hnow)
    (stagedPlace_of_stagedNodes hnow) with
    ⟨failure, hrename, hblocked⟩ | ⟨after, hrename, hfree, hworking, hafter⟩
  · have hstep : (FileChange.rename (destination.join (fileIn stagingName p.fileName))
        (destination.join p.fileName)).perform now = .error failure now := by
      simp only [FileChange.perform, FileAction.perform, hrename]
    rw [Concludes, ending_change_of_error hstep, ← entryName_eq]
    exact .unmoved hstage hfault (hfinal.symm.trans hblocked) hnow
  · have hstep : (FileChange.rename (destination.join (fileIn stagingName p.fileName))
        (destination.join p.fileName)).perform now = .ok () after := by
      simp only [FileChange.perform, FileAction.perform, hrename]
    rw [Concludes, ending_change_of_ok hstep]
    apply concludes_of_movedNodes hd hstage hfault
    · rw [← hfinal]
      exact hfree
    · refine ⟨hworking.trans hnow.1, ?_⟩
      intro l
      rw [hafter, hnow.2, movedNodes]
      change (if l = installedPlace d p then _ else if l = stagedPlace d p then _ else _) = _
      split
      · rfl
      · split
        · rfl
        · next hl => exact stagedNodes_of_ne hl

theorem concludes_of_written (hd : LeadsTo fs destination d)
    (hstage : CanStage fs p destination d)
    (hnow : Shows fs now (stagedNodes fs d p (writtenMode (fs.node? (stagedPlace d p)))
      payload.bytes)) :
    Concludes fs p destination d mode? payload
      (payload.fault.toList.map .fault
        ++ (mode?.toList.map fun mode => .change (.setMode (destination.join p.entryName) mode))
        ++ [.change (.rename (destination.join p.entryName) (destination.join p.fileName)),
          .change (.removeDirectory (destination.join stagingName))]) now := by
  cases hfault : payload.fault with
  | some fault => exact .faulty hstage hfault hnow
  | none =>
      cases mode? with
      | none => exact concludes_of_stagedNodes hd hstage hfault hnow
      | some mode =>
          have hd' := leadsTo_of_shows hd hnow (stagedNodes_of_leadsOn hstage _ _)
          have hfits := hstage.fits
          rw [entryName_eq] at hfits
          obtain ⟨after, hmode, hworking, hafter⟩ := setMode_fileIn hd' isName_stagingName
            (isName_fileName p) hfits (stagingPlace_of_stagedNodes hnow)
            (stagedPlace_of_stagedNodes hnow) mode
          have hstep : (FileChange.setMode (destination.join p.entryName) mode).perform now =
              .ok () after := by
            rw [entryName_eq]
            simp only [FileChange.perform, FileAction.perform, hmode]
          simp only [Option.toList_none, Option.toList_some, List.map_nil, List.map_cons,
            List.nil_append, List.cons_append]
          rw [Concludes, ending_change_of_ok hstep]
          apply concludes_of_stagedNodes hd hstage hfault
          refine ⟨hworking.trans hnow.1, ?_⟩
          intro l
          rw [hafter, hnow.2]
          change (if l = stagedPlace d p then _ else _) = _
          split
          · next hl =>
              rw [hl, stagedNodes_stagedPlace]
              rfl
          · next hl => rw [stagedNodes_of_ne hl, stagedNodes_of_ne hl]

theorem concludes_of_preparedNodes (hd : LeadsTo fs destination d)
    (hfree : fs.node? (stagingPlace d) = none ∨ fs.node? (stagingPlace d) = some .directory)
    (hstaged : ∀ target, fs.node? (stagedPlace d p) ≠ some (.link target))
    (hnow : Shows fs now (preparedNodes fs d)) :
    Concludes fs p destination d mode? payload
      (.change (.overwrite (destination.join p.entryName) payload.bytes)
        :: (payload.fault.toList.map .fault
          ++ (mode?.toList.map fun mode => .change (.setMode (destination.join p.entryName) mode))
          ++ [.change (.rename (destination.join p.entryName) (destination.join p.fileName)),
            .change (.removeDirectory (destination.join stagingName))])) now := by
  have hd' := leadsTo_of_shows hd hnow fun l found _ hnode =>
    preparedNodes_of_leadsOn hfree l found hnode
  have hdirectory : now.node? (stagingPlace d) = some .directory :=
    (hnow.2 _).trans preparedNodes_stagingPlace
  have hsame : now.node? (stagedPlace d p) = fs.node? (stagedPlace d p) :=
    (hnow.2 _).trans (preparedNodes_of_ne (stagedPlace_ne_stagingPlace d p))
  rw [← hsame] at hstaged
  rcases overwrite_fileIn_cases hd' isName_stagingName (isName_fileName p) hdirectory hstaged
    payload.bytes with
    ⟨failure, hwrite, hblocked⟩ | ⟨after, hwrite, hfits, hwritable, hworking, hafter⟩
  · have hstep : (FileChange.overwrite (destination.join p.entryName) payload.bytes).perform now =
        .error failure now := by
      rw [entryName_eq]
      simp only [FileChange.perform, FileAction.perform, hwrite]
    rw [Concludes, ending_change_of_error hstep]
    refine .unstaged ?_ hfree hnow
    intro hstage
    rcases hblocked with hlong | hunwritable
    · rw [← entryName_eq] at hlong
      exact Nat.not_lt.mpr hlong hstage.fits
    · have hwritable := hstage.writable
      rw [← hsame, stagedPlace, hunwritable] at hwritable
      simp at hwritable
  · have hstep : (FileChange.overwrite (destination.join p.entryName) payload.bytes).perform now =
        .ok () after := by
      rw [entryName_eq]
      simp only [FileChange.perform, FileAction.perform, hwrite]
    have hstage : CanStage fs p destination d := by
      refine ⟨?_, hfree, ?_⟩
      · rw [entryName_eq]
        exact hfits
      · rw [← hsame]
        exact hwritable
    rw [Concludes, ending_change_of_ok hstep]
    apply concludes_of_written hd hstage
    refine ⟨hworking.trans hnow.1, ?_⟩
    intro l
    rw [hafter, ← hsame]
    change (if l = stagedPlace d p then _ else _) = _
    split
    · next hl =>
        rw [hl, stagedNodes_stagedPlace]
        rfl
    · next hl =>
        rw [stagedNodes_of_ne hl]
        exact hnow.2 l

/-- How an installation ends, whatever is in the way. -/
theorem installation_of_leadsTo (hd : LeadsTo fs destination d)
    (hstaging : ∀ target, fs.node? (stagingPlace d) ≠ some (.link target))
    (hstaged : ∀ target, fs.node? (stagedPlace d p) ≠ some (.link target))
    (mode? : Option Nat) (payload : Archive.Payload) :
    Concludes fs p destination d mode? payload
      ((Plan.of p.entryName p.fileName destination).steps mode? payload) fs := by
  obtain ⟨hdestination, -, -⟩ := path_of_leadsTo hd
  rw [steps_eq p hdestination]
  rcases makeDirectories_join_cases hd isName_stagingName hstaging with
    ⟨failure, hmake, hblocked⟩ | ⟨now, hmake, -, hfree, hworking, hnow⟩
  · have hstep : (FileChange.makeDirectories (destination.join stagingName)).perform fs =
        .error failure fs := hmake
    rw [Concludes, ending_change_of_error hstep]
    apply Installation.unprepared
    intro hstage
    rcases hblocked with hlong | ⟨mode, content, hfile⟩
    · exact Nat.not_lt.mpr hlong (size_join_stagingName_lt hstage)
    · have hfree := hstage.free
      rw [stagingPlace, hfile] at hfree
      simp at hfree
  · have hstep : (FileChange.makeDirectories (destination.join stagingName)).perform fs =
        .ok () now := hmake
    rw [Concludes, ending_change_of_ok hstep]
    exact concludes_of_preparedNodes hd hfree hstaged ⟨hworking, hnow⟩

theorem workingDirectory_of_installation {failed? : Option Step}
    (h : Installation fs p destination d mode? payload failed? after) :
    after.workingDirectory = fs.workingDirectory := by
  cases h with
  | unprepared hblocked => rfl
  | unstaged hblocked hfree hafter => exact hafter.1
  | faulty hstage hfault hafter => exact hafter.1
  | unmoved hstage hfault hblocked hafter => exact hafter.1
  | uncleared hstage hfault hfree hblocked hafter => exact hafter.1
  | installed hstage hfault hfree hclear hafter => exact hafter.1

/-- In a directory that can be removed after the installation lies nothing but the staged file. -/
theorem node?_below_stagingPlace (hstage : CanStage fs p destination d)
    (hclear : CanClear fs p destination d) {l : Location} (hbelow : stagingPlace d <+: l)
    (hstaging : l ≠ stagingPlace d) (hstaged : l ≠ stagedPlace d p) : fs.node? l = none := by
  obtain ⟨below, rfl⟩ := hbelow
  obtain ⟨name, rest, rfl⟩ : ∃ name rest, below = name :: rest :=
    List.exists_cons_of_ne_nil (by rintro rfl; simp at hstaging)
  have hprefix : d ++ [stagingName, name] <+: stagingPlace d ++ name :: rest := by
    simp [stagingPlace]
  rcases Decidable.em (name = p.fileName) with rfl | hname
  · have hfile : fs.node? (stagedPlace d p) ≠ some .directory := by
      intro hdirectory
      have hwritable := hstage.writable
      simp [hdirectory, mayBeWritten] at hwritable
    exact node?_below_eq_none hfile hprefix hstaged
  · exact node?_below_none (hclear.alone name hname) hprefix

theorem adrift_iff_unmoored (h : Installation fs p destination d mode? payload none after) :
    Adrift after destination ↔ Unmoored fs destination d := by
  cases h with
  | installed hstage hfault hfree hclear hafter =>
      rw [Adrift, Unmoored, hafter.1, hafter.2, installedNodes]
      refine and_congr_right fun _ => ?_
      split
      · next hinstalled => simp [hinstalled, hfree]
      · split
        · next hbelow =>
            refine iff_of_true (by simp) ?_
            by_contra! hmoored
            have hstaged : fs.workingDirectory ≠ stagedPlace d p :=
              ne_stagedPlace_of_leadsOn hstage (Or.inl rfl) hmoored.1
            have hnone := node?_below_stagingPlace hstage hclear hbelow hmoored.2 hstaged
            simp [hnone] at hmoored
        · next hapart =>
            have hstaging : fs.workingDirectory ≠ stagingPlace d := by
              rintro hworking
              exact hapart (by simp [hworking])
            simp [hstaging]

/-- When all steps are done the file's path is told, unless the destination starts nowhere then. -/
theorem absolute_of_installation (h : Installation fs p destination d mode? payload none after) :
    (Unmoored fs destination d ∧
      after.absolute (destination.join p.fileName) = .error .notFound) ∨
    (¬Unmoored fs destination d ∧
      after.absolute (destination.join p.fileName) =
        .ok ((destination.absolute fs.workingPath).join p.fileName)) := by
  have hname := (isName_fileName p).toIsPiece
  rw [← adrift_iff_unmoored h, ← adrift_join_iff destination hname]
  rcases Classical.em (Adrift after (destination.join p.fileName)) with hadrift | hanchored
  · exact .inl ⟨hadrift, absolute_of_adrift hadrift⟩
  · have hpath : after.workingPath = fs.workingPath := by
      rw [workingPath, workingPath, workingDirectory_of_installation h]
    refine .inr ⟨hanchored, ?_⟩
    rw [absolute_of_not_adrift hanchored, hpath, absolute_join destination hname]

end Steps

variable [Archive.Decoders]

/-- What an action comes to: the entry cannot be read and nothing is done, or its steps are carried
out up to one that fails, or all of them. After those it can still fail, as the path of the file may
start from a working directory that is gone. -/
theorem action_cases (archive : Bytes) (hd : LeadsTo fs destination d)
    (hstaging : ∀ target, fs.node? (stagingPlace d) ≠ some (.link target))
    (hstaged : ∀ target, fs.node? (stagedPlace d p) ≠ some (.link target)) :
    (∃ error, action archive p.entryName destination fs = .error error fs ∧
      delivered? archive p.entryName = none) ∨
    (∃ entry payload,
      delivered? archive p.entryName =
        (if payload.fault = none then some (entry, payload.bytes) else none) ∧
      ((∃ step error after,
          Installation fs p destination d entry.mode? payload (some step) after ∧
          failedStep? archive p.entryName destination fs = some step ∧
          action archive p.entryName destination fs = .error error after) ∨
        (∃ after, Installation fs p destination d entry.mode? payload none after ∧
          failedStep? archive p.entryName destination fs = none ∧ Unmoored fs destination d ∧
          action archive p.entryName destination fs = .error (refusal .notFound) after) ∨
        (∃ after, Installation fs p destination d entry.mode? payload none after ∧
          ¬Unmoored fs destination d ∧
          action archive p.entryName destination fs =
            .ok ((destination.absolute fs.workingPath).join p.fileName) after))) := by
  obtain ⟨hdestination, -, -⟩ := path_of_leadsTo hd
  rcases select_cases archive p with ⟨error, hselect, hnone⟩ | ⟨entry, payload, hselect, hsome⟩
  · exact Or.inl ⟨error, action_of_not_select hselect destination fs, hnone⟩
  · right
    refine ⟨entry, payload, hsome, ?_⟩
    have hconcludes := installation_of_leadsTo hd hstaging hstaged entry.mode? payload
    have hfailed : failedStep? archive p.entryName destination fs =
        (ending ((Plan.of p.entryName p.fileName destination).steps entry.mode? payload) fs).1.map
          Prod.fst := by
      simp only [failedStep?, hselect]
    have haction := action_of_select hselect destination fs
    simp only [performAll_eq_ending] at haction
    rw [Concludes] at hconcludes
    cases hending : ending ((Plan.of p.entryName p.fileName destination).steps entry.mode? payload)
      fs with
    | mk failed? after =>
        rw [hending] at hconcludes hfailed haction
        cases failed? with
        | some failed => exact Or.inl ⟨failed.1, failed.2, after, hconcludes, hfailed, haction⟩
        | none =>
            right
            rcases absolute_of_installation hconcludes with
              ⟨hunmoored, habsolute⟩ | ⟨hmoored, habsolute⟩
            · left
              refine ⟨after, hconcludes, hfailed, hunmoored, ?_⟩
              simp only [haction, Plan.of, habsolute]
            · right
              refine ⟨after, hconcludes, hmoored, ?_⟩
              simp only [haction, Plan.of, habsolute]

end ShaderTools.Proofs.InstallOutcomes
