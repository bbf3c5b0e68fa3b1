import ShaderTools.Proofs.InstallOutcomes

/-!
What an installation leaves behind. The file it is for is the old one or the whole new one, and a
failure touches little else. An installation succeeds if and only if the files before it meet the
conditions of each of its steps.
-/

namespace ShaderTools.Proofs.InstalledFiles

open ShaderTools.FileSystem
open ShaderTools.Install
open ShaderTools.Proofs.JoinedPaths
open ShaderTools.Proofs.PathWalks
open ShaderTools.Proofs.TreeUpdates
open ShaderTools.Proofs.EntryOperations
open ShaderTools.Proofs.InstallSteps
open ShaderTools.Proofs.InstallOutcomes

/-- Whether an action succeeds. -/
def isSuccess {ε σ α : Type} : EStateM.Result ε σ α → Bool
  | .ok _ _ => true
  | .error _ _ => false

def filesAfter {ε α : Type} : EStateM.Result ε FileSystem α → FileSystem
  | .ok _ after => after
  | .error _ after => after

section Leftovers

variable [Archive.Decoders]

/-- At a location lies what lay there before, together with all below it, or else a file with all
the bytes of a platform's entry, which have the checksum of that entry. -/
def OldOrNew (archive : Bytes) (p : Platform) (l : Location) (fs after : FileSystem) : Prop :=
  (∀ m, after.node? (l ++ m) = fs.node? (l ++ m)) ∨
    ∃ entry content mode, delivered? archive p.entryName = some (entry, content) ∧
      (Archive.checksum content).toNat = entry.checksum ∧
      after.node? l = some (.file mode content)

/-- All steps of an installation are done, but then the path of the file cannot be told. -/
def IsUntold (archive : Bytes) (p : Platform) (destination : Path) (d : Location)
    (fs : FileSystem) : Prop :=
  failedStep? archive p.entryName destination fs = none ∧ Unmoored fs destination d

/-- What a failed installation may change: the directory for staging may be new, and a file in it
may be new, written over or gone. The validator is replaced only if all that fails is to remove that
directory, or if that is done and the path of the validator cannot be told. -/
structure Leftovers (archive : Bytes) (p : Platform) (destination : Path) (d : Location)
    (fs after : FileSystem) : Prop where
  elsewhere : ∀ l, l ≠ stagingPlace d → l ≠ stagedPlace d p → l ≠ installedPlace d p →
    after.node? l = fs.node? l
  staging : after.node? (stagingPlace d) = fs.node? (stagingPlace d) ∨
    fs.node? (stagingPlace d) = none ∧ after.node? (stagingPlace d) = some .directory ∨
    after.node? (stagingPlace d) = none ∧ IsUntold archive p destination d fs
  staged : after.node? (stagedPlace d p) = fs.node? (stagedPlace d p) ∨
    after.node? (stagedPlace d p) = none ∨
    ∃ mode content, after.node? (stagedPlace d p) = some (.file mode content)
  installed : after.node? (installedPlace d p) ≠ fs.node? (installedPlace d p) →
    failedStep? archive p.entryName destination fs =
        some (.change (.removeDirectory (destination.join stagingName))) ∨
      IsUntold archive p destination d fs

end Leftovers

variable {archive : Bytes} {fs after : FileSystem} {p : Platform} {destination : Path}
  {d : Location}

section Outcomes

variable [Archive.Decoders] {mode? : Option Nat} {payload : Archive.Payload}

theorem oldOrNew_of_installation {entry : Archive.Entry} {failed? : Option Step}
    (hdelivered : delivered? archive p.entryName =
      if payload.fault = none then some (entry, payload.bytes) else none)
    (h : Installation fs p destination d mode? payload failed? after) :
    OldOrNew archive p (installedPlace d p) fs after := by
  have hnew : payload.fault = none → ∀ mode,
      after.node? (installedPlace d p) = some (.file mode payload.bytes) →
      OldOrNew archive p (installedPlace d p) fs after := by
    intro hfault mode hfile
    rw [if_pos hfault] at hdelivered
    exact Or.inr ⟨entry, payload.bytes, mode, hdelivered, checksum_of_delivered? hdelivered, hfile⟩
  cases h with
  | unprepared hblocked => exact Or.inl fun m => rfl
  | unstaged hblocked hfree hafter =>
      refine Or.inl fun m => (hafter.2 _).trans (preparedNodes_of_ne ?_)
      simp [installedPlace, stagingPlace, fileName_ne_stagingName]
  | faulty hstage hfault hafter =>
      exact Or.inl fun m => (hafter.2 _).trans (stagedNodes_installedPlace m)
  | unmoved hstage hfault hblocked hafter =>
      exact Or.inl fun m => (hafter.2 _).trans (stagedNodes_installedPlace m)
  | uncleared hstage hfault hfree hblocked hafter =>
      exact hnew hfault _ ((hafter.2 _).trans movedNodes_installedPlace)
  | installed hstage hfault hfree hclear hafter =>
      exact hnew hfault _ ((hafter.2 _).trans (if_pos rfl))

theorem leftovers_refl (archive : Bytes) (p : Platform) (destination : Path) (d : Location)
    (fs : FileSystem) : Leftovers archive p destination d fs fs where
  elsewhere _ _ _ _ := rfl
  staging := Or.inl rfl
  staged := Or.inl rfl
  installed hchanged := absurd rfl hchanged

theorem staging_of_shows {nodes : Location → Option Node} (hafter : Shows fs after nodes)
    (hfree : fs.node? (stagingPlace d) = none ∨ fs.node? (stagingPlace d) = some .directory)
    (hnodes : nodes (stagingPlace d) = some .directory) :
    after.node? (stagingPlace d) = fs.node? (stagingPlace d) ∨
      fs.node? (stagingPlace d) = none ∧ after.node? (stagingPlace d) = some .directory ∨
      after.node? (stagingPlace d) = none ∧ IsUntold archive p destination d fs := by
  rw [hafter.2, hnodes]
  rcases hfree with hnone | hdirectory
  · exact Or.inr (Or.inl ⟨hnone, rfl⟩)
  · exact Or.inl hdirectory.symm

theorem leftovers_of_stagedNodes {mode : Nat} {content : Bytes}
    (hfree : fs.node? (stagingPlace d) = none ∨ fs.node? (stagingPlace d) = some .directory)
    (hafter : Shows fs after (stagedNodes fs d p mode content)) :
    Leftovers archive p destination d fs after where
  elsewhere l hstaging hstaged hinstalled := by
    rw [hafter.2, stagedNodes_of_ne hstaged, preparedNodes_of_ne hstaging]
  staging := staging_of_shows hafter hfree stagedNodes_stagingPlace
  staged := Or.inr (Or.inr ⟨mode, content, (hafter.2 _).trans stagedNodes_stagedPlace⟩)
  installed hchanged := by
    refine absurd ?_ hchanged
    rw [hafter.2]
    simpa using (stagedNodes_installedPlace [] :
      stagedNodes fs d p mode content (installedPlace d p ++ []) = _)

theorem leftovers_of_installation {step : Step}
    (hfailed : failedStep? archive p.entryName destination fs = some step)
    (h : Installation fs p destination d mode? payload (some step) after) :
    Leftovers archive p destination d fs after := by
  cases h with
  | unprepared hblocked => exact leftovers_refl archive p destination d fs
  | unstaged hblocked hfree hafter =>
      constructor
      · intro l hstaging hstaged hinstalled
        rw [hafter.2, preparedNodes_of_ne hstaging]
      · exact staging_of_shows hafter hfree preparedNodes_stagingPlace
      · left
        rw [hafter.2, preparedNodes_of_ne (stagedPlace_ne_stagingPlace d p)]
      · intro hchanged
        refine absurd ?_ hchanged
        rw [hafter.2, preparedNodes_of_ne (installedPlace_ne_stagingPlace d p)]
  | faulty hstage hfault hafter => exact leftovers_of_stagedNodes hstage.free hafter
  | unmoved hstage hfault hblocked hafter => exact leftovers_of_stagedNodes hstage.free hafter
  | uncleared hstage hfault hfree hblocked hafter =>
      constructor
      · intro l hstaging hstaged hinstalled
        rw [hafter.2, movedNodes_of_ne hinstalled hstaged, preparedNodes_of_ne hstaging]
      · exact staging_of_shows hafter hstage.free movedNodes_stagingPlace
      · exact Or.inr (Or.inl ((hafter.2 _).trans movedNodes_stagedPlace))
      · intro _
        exact Or.inl hfailed

/-- An installation that only fails to tell its path has done all that one does. -/
theorem leftovers_of_untold (huntold : IsUntold archive p destination d fs)
    (h : Installation fs p destination d mode? payload none after) :
    Leftovers archive p destination d fs after := by
  cases h with
  | installed hstage hfault hfree hclear hafter =>
      constructor
      · intro l hstaging hstaged hinstalled
        rw [hafter.2, installedNodes, if_neg hinstalled]
        split
        · next hbelow =>
            exact (node?_below_stagingPlace hstage hclear hbelow hstaging hstaged).symm
        · rfl
      · refine Or.inr (Or.inr ⟨?_, huntold⟩)
        rw [hafter.2, installedNodes, if_neg (installedPlace_ne_stagingPlace d p).symm,
          if_pos (List.prefix_refl _)]
      · refine Or.inr (Or.inl ?_)
        rw [hafter.2, installedNodes, if_neg (installedPlace_ne_stagedPlace d p p).symm, if_pos]
        simp [stagingPlace, stagedPlace]
      · intro _
        exact Or.inr huntold

/-- Whatever comes of an installation, the validator is the old one or the whole new one, and a
failure leaves nothing else behind than a staging directory and a staged file. -/
theorem action_oldOrNew (archive : Bytes) (p : Platform) (hd : LeadsTo fs destination d)
    (hstaging : ∀ target, fs.node? (stagingPlace d) ≠ some (.link target))
    (hstaged : ∀ target, fs.node? (stagedPlace d p) ≠ some (.link target)) :
    OldOrNew archive p (installedPlace d p) fs
        (filesAfter (action archive p.entryName destination fs)) ∧
      (isSuccess (action archive p.entryName destination fs) = false →
        Leftovers archive p destination d fs
          (filesAfter (action archive p.entryName destination fs))) := by
  rcases action_cases archive hd hstaging hstaged with
    ⟨error, haction, hnone⟩ | ⟨entry, payload, hdelivered, hresult⟩
  · rw [haction]
    exact ⟨Or.inl fun m => rfl, fun _ => leftovers_refl archive p destination d fs⟩
  · rcases hresult with ⟨step, error, after, hinstallation, hfailed, haction⟩ |
      ⟨after, hinstallation, hfailed, hunmoored, haction⟩ | ⟨after, hinstallation, -, haction⟩
    · rw [haction]
      exact ⟨oldOrNew_of_installation hdelivered hinstallation,
        fun _ => leftovers_of_installation hfailed hinstallation⟩
    · rw [haction]
      exact ⟨oldOrNew_of_installation hdelivered hinstallation,
        fun _ => leftovers_of_untold ⟨hfailed, hunmoored⟩ hinstallation⟩
    · rw [haction]
      refine ⟨oldOrNew_of_installation hdelivered hinstallation, ?_⟩
      intro hfails
      simp [isSuccess] at hfails

end Outcomes

section Samples

attribute [local instance] Archive.Decoders.absent

def sampleContent : Bytes := [0x66, 0x72, 0x65, 0x73, 0x68]

/-- An archive of one entry, the validator for Linux, with the given attributes and with five bytes
that are not compressed. -/
def sampleArchive (attributes : Bytes) : Bytes :=
  [0x50, 0x4b, 0x03, 0x04, 0x14, 0, 0, 0, 0, 0, 0, 0, 0x21, 0x58, 0x73, 0xd7, 0x01, 0x18, 5, 0, 0,
      0, 5, 0, 0, 0, 0x14, 0, 0, 0]
    ++ Text.Utf8.encode Platform.linux.entryName
    ++ sampleContent
    ++ [0x50, 0x4b, 0x01, 0x02, 0x14, 0x03, 0x14, 0, 0, 0, 0, 0, 0, 0, 0x21, 0x58, 0x73, 0xd7, 0x01,
      0x18, 5, 0, 0, 0, 5, 0, 0, 0, 0x14, 0, 0, 0, 0, 0, 0, 0, 0, 0]
    ++ attributes
    ++ [0, 0, 0, 0]
    ++ Text.Utf8.encode Platform.linux.entryName
    ++ [0x50, 0x4b, 0x05, 0x06, 0, 0, 0, 0, 1, 0, 1, 0, 0x42, 0, 0, 0, 0x37, 0, 0, 0, 0, 0]

/-- The attributes of a file that its owner may write and all may run. -/
def executable : Bytes := [0, 0, 0xed, 0x81]

/-- A file system with a directory for staging in which another file lies, too. -/
def cluttered : FileSystem :=
  ⟨[(stagingName, .directory
      [(Platform.linux.fileName, .file 0o600 [1]), ("notes".toList, .file 0o644 [2])]),
    (Platform.linux.fileName, .file 0o755 [3])], []⟩

theorem leadsTo_cluttered : LeadsTo cluttered ['.'] [] := ⟨by decide +kernel, by decide +kernel⟩

theorem action_oldOrNew_cluttered :
    OldOrNew (sampleArchive executable) .linux (installedPlace [] .linux) cluttered
        (filesAfter (action (sampleArchive executable) Platform.linux.entryName ['.'] cluttered)) ∧
      Leftovers (sampleArchive executable) .linux ['.'] [] cluttered
        (filesAfter (action (sampleArchive executable) Platform.linux.entryName ['.']
          cluttered)) := by
  have hstaging : cluttered.node? (stagingPlace []) = some .directory := by decide +kernel
  have hstaged : cluttered.node? (stagedPlace [] .linux) = some (.file 0o600 [1]) := by
    decide +kernel
  have h := action_oldOrNew (sampleArchive executable) .linux leadsTo_cluttered (by simp [hstaging])
    (by simp [hstaged])
  exact ⟨h.1, h.2 (by decide +kernel)⟩

/-- A file system with an empty directory for staging, in a given working directory. -/
def emptyStage (workingDirectory : Location) : FileSystem :=
  ⟨[(stagingName, .directory []), (Platform.linux.fileName, .file 0o755 [3])], workingDirectory⟩

/-- A path through the directory for staging to the one above it. -/
def throughStaging : Path := "bin/..".toList

/-- The validator need not be found along the path of the destination, as that may lead through the
directory that is removed. And where that is the working directory, an installation can fail after
all that it has to do is done. -/
theorem action_replaces_untold :
    (LeadsTo (emptyStage []) throughStaging [] ∧
      (emptyStage []).read (throughStaging.join Platform.linux.fileName) = .ok [3] ∧
      (filesAfter (action (sampleArchive executable) Platform.linux.entryName throughStaging
        (emptyStage []))).read (throughStaging.join Platform.linux.fileName) = .error .notFound) ∧
    (LeadsTo (emptyStage [stagingName]) ['.', '.'] [] ∧
      isSuccess (action (sampleArchive executable) Platform.linux.entryName ['.', '.']
        (emptyStage [stagingName])) = false ∧
      failedStep? (sampleArchive executable) Platform.linux.entryName ['.', '.']
        (emptyStage [stagingName]) = none ∧
      (filesAfter (action (sampleArchive executable) Platform.linux.entryName ['.', '.']
        (emptyStage [stagingName]))).node? (installedPlace [] .linux) =
          some (.file 0o755 sampleContent) ∧
      (filesAfter (action (sampleArchive executable) Platform.linux.entryName ['.', '.']
        (emptyStage [stagingName]))).node? (stagingPlace []) = none) := by
  refine ⟨⟨⟨by decide +kernel, by decide +kernel⟩, by decide +kernel, by decide +kernel⟩,
    ⟨by decide +kernel, by decide +kernel⟩, by decide +kernel, by decide +kernel,
    by decide +kernel, by decide +kernel⟩

end Samples

section Conditions

variable [Archive.Decoders]

/-- When an installation succeeds: the archive has the whole entry, it can be staged and moved to
where no directory is, the directory for staging can be removed, and then the path can be told. -/
structure CanInstall (archive : Bytes) (fs : FileSystem) (p : Platform) (destination : Path)
    (d : Location) : Prop where
  delivered : (delivered? archive p.entryName).isSome
  stage : CanStage fs p destination d
  free : fs.node? (installedPlace d p) ≠ some .directory
  clear : CanClear fs p destination d
  moored : ¬Unmoored fs destination d

theorem canInstall_iff_of_installation {entry : Archive.Entry} {payload : Archive.Payload}
    {mode? : Option Nat} {failed? : Option Step}
    (hdelivered : delivered? archive p.entryName =
      if payload.fault = none then some (entry, payload.bytes) else none)
    (h : Installation fs p destination d mode? payload failed? after) :
    CanInstall archive fs p destination d ↔ failed? = none ∧ ¬Unmoored fs destination d := by
  cases h with
  | unprepared hblocked => exact iff_of_false (fun hcan => hblocked hcan.stage) (by simp)
  | unstaged hblocked hfree hafter =>
      exact iff_of_false (fun hcan => hblocked hcan.stage) (by simp)
  | faulty hstage hfault hafter =>
      refine iff_of_false (fun hcan => ?_) (by simp)
      have hsome := hcan.delivered
      rw [hdelivered, hfault] at hsome
      simp at hsome
  | unmoved hstage hfault hblocked hafter =>
      exact iff_of_false (fun hcan => hcan.free hblocked) (by simp)
  | uncleared hstage hfault hfree hblocked hafter =>
      exact iff_of_false (fun hcan => hblocked hcan.clear) (by simp)
  | installed hstage hfault hfree hclear hafter =>
      have hsome : (delivered? archive p.entryName).isSome := by
        rw [hdelivered, if_pos hfault]
        rfl
      exact ⟨fun hcan => ⟨rfl, hcan.moored⟩,
        fun hmoored => ⟨hsome, hstage, hfree, hclear, hmoored.2⟩⟩

theorem isSuccess_iff_canInstall (archive : Bytes) (hd : LeadsTo fs destination d)
    (hstaging : ∀ target, fs.node? (stagingPlace d) ≠ some (.link target))
    (hstaged : ∀ target, fs.node? (stagedPlace d p) ≠ some (.link target)) :
    isSuccess (action archive p.entryName destination fs) = true ↔
      CanInstall archive fs p destination d := by
  rcases action_cases archive hd hstaging hstaged with
    ⟨error, haction, hnone⟩ | ⟨entry, payload, hdelivered, hresult⟩
  · rw [haction]
    constructor
    · intro hsuccess
      simp [isSuccess] at hsuccess
    · intro hcan
      have hsome := hcan.delivered
      simp [hnone] at hsome
  · rcases hresult with ⟨step, error, after, hinstallation, -, haction⟩ |
      ⟨after, hinstallation, -, hunmoored, haction⟩ | ⟨after, hinstallation, hmoored, haction⟩
    · rw [haction, canInstall_iff_of_installation hdelivered hinstallation]
      simp [isSuccess]
    · rw [haction, canInstall_iff_of_installation hdelivered hinstallation]
      simp [isSuccess, hunmoored]
    · rw [haction, canInstall_iff_of_installation hdelivered hinstallation]
      simp [isSuccess, hmoored]

theorem installed_of_action_eq_ok {path : Path} (hd : LeadsTo fs destination d)
    (hstaging : ∀ target, fs.node? (stagingPlace d) ≠ some (.link target))
    (hstaged : ∀ target, fs.node? (stagedPlace d p) ≠ some (.link target))
    (h : action archive p.entryName destination fs = .ok path after) :
    path = (destination.absolute fs.workingPath).join p.fileName ∧
      ∃ entry content, delivered? archive p.entryName = some (entry, content) ∧
        Shows fs after (installedNodes fs d p
          (fileMode entry.mode? (fs.node? (stagedPlace d p))) content) := by
  rcases action_cases archive hd hstaging hstaged with
    ⟨error, haction, -⟩ | ⟨entry, payload, hdelivered, hresult⟩
  · simp [haction] at h
  · rcases hresult with ⟨step, error, after', -, -, haction⟩ | ⟨after', -, -, -, haction⟩ |
      ⟨after', hinstallation, -, haction⟩
    · simp [haction] at h
    · simp [haction] at h
    · rw [haction] at h
      obtain ⟨rfl, rfl⟩ := EStateM.Result.ok.inj h
      refine ⟨rfl, entry, payload.bytes, ?_⟩
      cases hinstallation with
      | installed hstage hfault hfree hclear hafter =>
          rw [if_pos hfault] at hdelivered
          exact ⟨hdelivered, hafter⟩

/-- An installation succeeds if and only if its conditions are met, and then the validator is all
that is new and the directory for staging all that is gone. -/
theorem action_succeeds_iff (archive : Bytes) (p : Platform) (hd : LeadsTo fs destination d)
    (hstaging : ∀ target, fs.node? (stagingPlace d) ≠ some (.link target))
    (hstaged : ∀ target, fs.node? (stagedPlace d p) ≠ some (.link target)) :
    (isSuccess (action archive p.entryName destination fs) = true ↔
        CanInstall archive fs p destination d) ∧
      ∀ path after, action archive p.entryName destination fs = .ok path after →
        path = (destination.absolute fs.workingPath).join p.fileName ∧
        ∃ entry content, delivered? archive p.entryName = some (entry, content) ∧
          Shows fs after (installedNodes fs d p
            (fileMode entry.mode? (fs.node? (stagedPlace d p))) content) := by
  constructor
  · exact isSuccess_iff_canInstall archive hd hstaging hstaged
  · intro path after h
    exact installed_of_action_eq_ok hd hstaging hstaged h

end Conditions

section Samples

attribute [local instance] Archive.Decoders.absent

/-- A file system with an interrupted installation. -/
def interrupted : FileSystem :=
  ⟨[(stagingName, .directory [(Platform.linux.fileName, .file 0o6755 [1])]),
    (Platform.linux.fileName, .link "elsewhere".toList)], []⟩

theorem leadsTo_interrupted : LeadsTo interrupted ['.'] [] :=
  ⟨by decide +kernel, by decide +kernel⟩

theorem action_succeeds_interrupted :
    CanInstall (sampleArchive executable) interrupted .linux ['.'] [] ∧
      ∀ path after,
        action (sampleArchive executable) Platform.linux.entryName ['.'] interrupted =
            .ok path after →
          path = (Path.absolute ['.'] interrupted.workingPath).join Platform.linux.fileName ∧
          ∃ entry content,
            delivered? (sampleArchive executable) Platform.linux.entryName =
              some (entry, content) ∧
            Shows interrupted after (installedNodes interrupted [] .linux
              (fileMode entry.mode? (interrupted.node? (stagedPlace [] .linux))) content) := by
  have hstaging : interrupted.node? (stagingPlace []) = some .directory := by decide +kernel
  have hstaged : interrupted.node? (stagedPlace [] .linux) = some (.file 0o6755 [1]) := by
    decide +kernel
  have h := action_succeeds_iff (sampleArchive executable) .linux leadsTo_interrupted
    (by simp [hstaging]) (by simp [hstaged])
  exact ⟨h.1.mp (by decide +kernel), h.2⟩

/-- Conditions that look at the entries of the destination alone. -/
structure Unobstructed (fs : FileSystem) (p : Platform) (d : Location) : Prop where
  staging : fs.node? (stagingPlace d) = none ∨ fs.node? (stagingPlace d) = some .directory
  alone : ∀ name, name ≠ p.fileName → fs.node? (d ++ [stagingName, name]) = none
  staged : fs.node? (stagedPlace d p) ≠ some .directory
  installed : fs.node? (installedPlace d p) ≠ some .directory

/-- A file system in which the validator is a link to its own directory. -/
def linkedHere : FileSystem := ⟨[(Platform.linux.fileName, .link ['.'])], []⟩

/-- A file system with an interrupted installation whose file may not be written. -/
def guarded : FileSystem :=
  ⟨[(stagingName, .directory [(Platform.linux.fileName, .file 0o444 [])])], []⟩

/-- A long path to the root. -/
def slashes : Path := List.replicate 4080 '/'

theorem unobstructed_of_no_staging {fs : FileSystem} {p : Platform} {d : Location}
    (hstaging : fs.node? (stagingPlace d) = none)
    (hinstalled : fs.node? (installedPlace d p) ≠ some .directory) : Unobstructed fs p d := by
  have hbelow : ∀ name, fs.node? (d ++ [stagingName, name]) = none := by
    intro name
    apply node?_below_eq_none (l := stagingPlace d)
    · simp [hstaging]
    · simp [stagingPlace]
    · simp [stagingPlace]
  refine ⟨Or.inl hstaging, fun name _ => hbelow name, ?_, hinstalled⟩
  rw [stagedPlace, hbelow]
  simp

theorem leadsTo_slashes : LeadsTo ⟨[], []⟩ slashes [] := ⟨by decide +kernel, by decide +kernel⟩

theorem isSuccess_slashes :
    isSuccess (action (sampleArchive executable) Platform.linux.entryName slashes ⟨[], []⟩) =
      false := by
  have hstaging : (FileSystem.mk [] []).node? (stagingPlace []) = none := by decide +kernel
  have hstaged : (FileSystem.mk [] []).node? (stagedPlace [] .linux) = none := by decide +kernel
  rw [Bool.eq_false_iff, ne_eq, isSuccess_iff_canInstall _ leadsTo_slashes (by simp [hstaging])
    (by simp [hstaged])]
  intro hcan
  have hlong : ¬Text.Utf8.size (slashes.join Platform.linux.entryName) < pathLimit := by
    decide +kernel
  exact hlong hcan.stage.fits

theorem unobstructed_guarded : Unobstructed guarded .linux [] where
  staging := Or.inr (by decide +kernel)
  alone name hname := by
    simp [guarded, FileSystem.node?, FileSystem.tree, Tree.node?, Tree.find?_cons, Tree.entries,
      Tree.child?, hname]
  staged := by decide +kernel
  installed := by decide +kernel

/-- What lies in the destination does not decide it: an installation fails where the destination
leads through a link that the validator replaces, where a staged file may not be written, and where
the path is too long. Of the mode of a staged file it does not keep all bits. -/
theorem action_fails_unobstructed :
    (delivered? (sampleArchive executable) Platform.linux.entryName).isSome ∧
      (LeadsTo linkedHere Platform.linux.fileName [] ∧ Unobstructed linkedHere .linux [] ∧
        isSuccess (action (sampleArchive executable) Platform.linux.entryName
          Platform.linux.fileName linkedHere) = false) ∧
      (LeadsTo guarded ['.'] [] ∧ Unobstructed guarded .linux [] ∧
        isSuccess (action (sampleArchive executable) Platform.linux.entryName ['.'] guarded) =
          false) ∧
      (LeadsTo ⟨[], []⟩ slashes [] ∧ Unobstructed ⟨[], []⟩ .linux [] ∧
        isSuccess (action (sampleArchive executable) Platform.linux.entryName slashes ⟨[], []⟩) =
          false) ∧
      (filesAfter (action (sampleArchive [0, 0, 0, 0]) Platform.linux.entryName ['.']
        interrupted)).node? (installedPlace [] .linux) = some (.file 0o755 sampleContent) := by
  refine ⟨by decide +kernel, ⟨⟨by decide +kernel, by decide +kernel⟩, ?_, by decide +kernel⟩,
    ⟨⟨by decide +kernel, by decide +kernel⟩, unobstructed_guarded, by decide +kernel⟩,
    ⟨leadsTo_slashes, ?_, isSuccess_slashes⟩, by decide +kernel⟩
  · exact unobstructed_of_no_staging (by decide +kernel) (by decide +kernel)
  · exact unobstructed_of_no_staging (by decide +kernel) (by decide +kernel)

end Samples

end ShaderTools.Proofs.InstalledFiles
