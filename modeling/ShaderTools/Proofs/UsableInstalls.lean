import ShaderTools.Proofs.StagedPaths
import ShaderTools.Proofs.StepRuns

/-!
Files that an installation has succeeded in installing. Wherever links lead, the file that was
written is the one that was moved, unless a link lay where it was to be staged; and it is found by
the path that is returned as long as that leads on without the directory for staging.
-/

namespace ShaderTools.Proofs.UsableInstalls

open ShaderTools.Text
open ShaderTools.FileSystem
open ShaderTools.Install
open ShaderTools.Path
open ShaderTools.Proofs.JoinedPaths
open ShaderTools.Proofs.PathWalks
open ShaderTools.Proofs.TreeUpdates
open ShaderTools.Proofs.EntryOperations
open ShaderTools.Proofs.InstallSteps
open ShaderTools.Proofs.InstalledFiles
open ShaderTools.Proofs.WalkEnds
open ShaderTools.Proofs.AbsolutePaths
open ShaderTools.Proofs.OperationEffects
open ShaderTools.Proofs.StagedPaths
open ShaderTools.Proofs.StepRuns

/-- A symbolic link lies at the end of a path. -/
def IsLink (fs : FileSystem) (p : Path) : Prop :=
  ∃ parent name slash target, fs.place .kept p = .ok (.entry parent name slash) ∧
    fs.node? (parent ++ [name]) = some (.link target)

/-- The files when the directory for staging has been made. -/
def prepared (plan : Plan) (fs : FileSystem) : FileSystem :=
  match plan.stagingDirectory? with
  | none => fs
  | some directory => filesAfter (makeDirectories directory fs)

/-- A file that is found by its path, and read if its owner may read it, if and only if the path
leads on through its directory. -/
structure Usable (fs : FileSystem) (directory path : Path) (l : Location) (mode : Nat)
    (content : Bytes) : Prop where
  file : fs.node? l = some (.file mode content)
  status : fs.status path = .ok (l, .file mode content) ↔
    Utf8.size path < pathLimit ∧ fs.isDirectory directory = true
  read : fs.read path = .ok content ↔
    Utf8.size path < pathLimit ∧ fs.isDirectory directory = true ∧ ownerMayRead mode = true

variable {fs now after : FileSystem} {p path : Path} {parent : Location} {name : Text} {mode : Nat}
  {content : Bytes}

section Names

theorem isDirectory_eq_true_iff :
    fs.isDirectory p = true ↔ ∃ d, fs.status p = .ok (d, .directory) := by
  unfold isDirectory
  split
  · next d hd => exact iff_of_true rfl ⟨d, hd⟩
  · next hnone =>
      refine iff_of_false (by simp) ?_
      rintro ⟨d, hd⟩
      exact hnone d hd

theorem place_of_status {found : Location × Node} (h : fs.status p = .ok found) :
    ∃ place, fs.place .followed p = .ok place := by
  cases hplace : fs.place .followed p with
  | error failure => simp [status, hplace, bind, Except.bind] at h
  | ok place => exact ⟨place, rfl⟩

/-- A path that leads anywhere by a name leads there through a directory. -/
theorem exists_of_place_join {last : LastName} {place : Place} (hp : p ≠ []) (hname : IsPiece name)
    (hnul : '\x00' ∉ name) (h : fs.place last (p.join name) = .ok place) :
    ∃ d follow, fs.status p = .ok (d, .directory) ∧
      walkSteps fs last false follow d [.name name] = .ok place := by
  have hcontinues : Continues fs last _ _ _ _ := place_join_continues hp hnul
    (by simp [hname.pieces_eq]) (fun _ => hname.getLast?_ne_slash) (isFollowed_of_place h).fits
  rw [Continues] at hcontinues
  cases harrival : arrival? fs (fs.place .followed p) with
  | none =>
      rw [harrival] at hcontinues
      obtain ⟨failure, hfailure⟩ := hcontinues
      simp [hfailure] at h
  | some d =>
      rw [harrival] at hcontinues
      obtain ⟨follow, hplace⟩ := hcontinues
      refine ⟨d, follow, status_eq_iff_arrival?.mpr harrival, ?_⟩
      rw [← h, hplace, hname.pieces_eq, decide_eq_false hname.getLast?_ne_slash, List.map_cons,
        List.map_nil, hname.stepOfPiece_eq]

theorem of_walkSteps_kept {follow : Location → Route → Except Failure Place} {d : Location}
    {place : Place} (h : walkSteps fs .kept false follow d [.name name] = .ok place) :
    Utf8.size name ≤ nameLimit ∧ place = .entry d name false := by
  cases atName_of_walkSteps h with
  | slashed hrest hlast hslash hplace => simp at hlast
  | ended hrest hopen hshort hlink hplace => exact ⟨hshort, hplace⟩
  | linked target hopen hshort hnode hlast hplace => exact absurd ⟨rfl, rfl⟩ hlast
  | down hrest hshort hnode hplace => exact absurd rfl hrest

theorem read_of_status {l : Location} (h : fs.status p = .ok (l, .file mode content)) :
    fs.read p = .ok content ↔ ownerMayRead mode = true := by
  simp only [FileSystem.read, h, bind, Except.bind]
  split
  · next hmay => exact iff_of_true rfl hmay
  · next hmay => exact iff_of_false (throw_ne_ok _ _) hmay

/-- A file in a directory is usable if it is found by each path that leads on there. -/
theorem usable_of_status {l : Location} (hp : p ≠ []) (hname : IsPiece name) (hnul : '\x00' ∉ name)
    (hfile : fs.node? l = some (.file mode content))
    (hfound : Utf8.size (p.join name) < pathLimit → fs.isDirectory p = true →
      fs.status (p.join name) = .ok (l, .file mode content)) :
    Usable fs p (p.join name) l mode content := by
  have hleads : ∀ {found}, fs.status (p.join name) = .ok found →
      Utf8.size (p.join name) < pathLimit ∧ fs.isDirectory p = true := by
    intro found hstatus
    obtain ⟨place, hplace⟩ := place_of_status hstatus
    obtain ⟨d, -, hd, -⟩ := exists_of_place_join hp hname hnul hplace
    exact ⟨(isFollowed_of_place hplace).fits, isDirectory_eq_true_iff.mpr ⟨d, hd⟩⟩
  refine ⟨hfile, ⟨hleads, fun h => hfound h.1 h.2⟩, ?_⟩
  constructor
  · intro hread
    cases hstatus : fs.status (p.join name) with
    | error failure => simp [FileSystem.read, hstatus, bind, Except.bind] at hread
    | ok found =>
        obtain ⟨hfits, hdirectory⟩ := hleads hstatus
        exact ⟨hfits, hdirectory, (read_of_status (hfound hfits hdirectory)).mp hread⟩
  · rintro ⟨hfits, hdirectory, hmay⟩
    exact (read_of_status (hfound hfits hdirectory)).mpr hmay

end Names

section Staging

/-- The entry is staged: its bytes are in the file that its path led to when the directory for
staging had been made, and nothing else has changed since. -/
structure Written (before : FileSystem) (staged : Path) (parent : Location) (name : Text)
    (mode : Nat) (content : Bytes) (now : FileSystem) : Prop where
  made : before.place .made staged = .ok (.entry parent name false)
  new : ∀ found, LeadsOn found → before.node? (parent ++ [name]) ≠ some found
  puts : Puts before now (parent ++ [name]) (some (.file mode content))

variable {staged : Path}

theorem Written.leadsToFile (h : Written fs staged parent name mode content now) :
    LeadsToFile now staged parent name mode content :=
  leadsToFile_of_puts h.made h.new h.puts

theorem Written.setMode {mode' : Nat} (h : Written fs staged parent name mode content now)
    (hset : now.setMode staged mode' = .ok after) :
    Written fs staged parent name (mode' &&& modeMask) content after :=
  ⟨h.made, h.new, h.puts.trans (h.leadsToFile.setMode_ok hset).1⟩

/-- If no link lay there, the entry lies where its path leads itself. -/
theorem Written.kept (h : Written fs staged parent name mode content now)
    (hlink : ¬IsLink fs staged) : now.place .kept staged = .ok (.entry parent name false) := by
  have hkept : fs.place .kept staged = .ok (.entry parent name false) := by
    apply kept_of_made h.made
    intro parent' name' slash target hplace hnode
    exact hlink ⟨parent', name', slash, target, hplace, hnode⟩
  exact place_of_keeps (h.puts.keeps h.new) h.puts.workingDirectory
    (by simp [h.puts.node?_self]) hkept

theorem Written.hasWorkingDirectory (h : Written fs staged parent name mode content now)
    (hworking : HasWorkingDirectory fs) : HasWorkingDirectory now :=
  hworking.of_keeps h.puts.workingDirectory fun l =>
    h.puts.keeps h.new l .directory (Or.inl rfl)

end Staging

section Moving

/-- A file has come to a place, and whatever leads on elsewhere is as before or does so no more. -/
structure Arrived (before : FileSystem) (l : Location) (mode : Nat) (content : Bytes)
    (now : FileSystem) : Prop where
  workingDirectory : now.workingDirectory = before.workingDirectory
  file : now.node? l = some (.file mode content)
  leads : ∀ m found, LeadsOn found → before.node? m = some found →
    now.node? m = some found ∨ ∀ other, LeadsOn other → now.node? m ≠ some other

variable {l old : Location}

theorem arrived_of_moves (h : Moves fs now old l (.file mode content))
    (hold : fs.node? old = some (.file mode content)) : Arrived fs l mode content now := by
  have hfile : now.node? l = some (.file mode content) := by rw [h.nodes, if_pos rfl]
  refine ⟨h.workingDirectory, hfile, ?_⟩
  intro m found hleads hm
  by_cases hnew : m = l
  · right
    rintro other hother hnode
    rw [hnew, hfile] at hnode
    obtain rfl := Option.some.inj hnode
    exact not_leadsOn_file hother
  · left
    rw [h.nodes, if_neg hnew, if_neg, hm]
    rintro rfl
    rw [hold] at hm
    obtain rfl := Option.some.inj hm
    exact not_leadsOn_file hleads

theorem Arrived.removeDirectory (h : Arrived fs l mode content now)
    (hremoved : now.removeDirectory p = .ok after) : Arrived fs l mode content after := by
  obtain ⟨parent, name, slash, -, hnode, -, hputs⟩ := removeDirectory_ok hremoved
  refine ⟨hputs.workingDirectory.trans h.workingDirectory, ?_, ?_⟩
  · rw [hputs.node?_of_ne, h.file]
    rintro rfl
    simp [h.file] at hnode
  · intro m found hleads hm
    by_cases hgone : m = parent ++ [name]
    · right
      rw [hgone, hputs.node?_self]
      simp
    · rw [hputs.node?_of_ne hgone]
      exact h.leads m found hleads hm

/-- A file is found in the directory that its path led to, if that still leads to a directory. -/
theorem Arrived.status {newParent : Location} {newName : Text} (hp : p ≠ []) (hname : IsPiece name)
    (hnul : '\x00' ∉ name)
    (hplace : fs.place .kept (p.join name) = .ok (.entry newParent newName false))
    (h : Arrived fs (newParent ++ [newName]) mode content now)
    (hdirectory : now.isDirectory p = true) :
    now.status (p.join name) = .ok (newParent ++ [newName], .file mode content) := by
  obtain ⟨d, follow, hd, hwalk⟩ := exists_of_place_join hp hname hnul hplace
  obtain ⟨hshort, hentry⟩ := of_walkSteps_kept hwalk
  obtain ⟨rfl, rfl⟩ : newParent = d ∧ newName = name := by simpa using hentry
  obtain ⟨d', hd'⟩ := isDirectory_eq_true_iff.mp hdirectory
  -- what leads on now did so before, so the path can only arrive where it did
  have hagree : AgreeAlong fs now now := fun m found hleads hm =>
    (h.leads m found hleads hm).imp_left fun hkept => ⟨hkept, hkept⟩
  obtain ⟨-, rfl⟩ := status_of_agreeAlong hagree h.workingDirectory h.workingDirectory hd hd'
  have hleads : LeadsTo now p d' := ⟨hd', node?_above (by simp) h.file⟩
  exact status_join_name hleads ⟨hname, hnul, hshort⟩ (isFollowed_of_place hplace).fits h.file
    (by simp)

end Moving

section Installs

variable {destination relative : Path} {fileName : Text}

/-- The directories and the working directory are kept while the directory for staging is made. -/
theorem keeps_prepared (fs : FileSystem) (destination relative : Path) (fileName : Text) :
    (prepared (Plan.of relative fileName destination) fs).workingDirectory =
        fs.workingDirectory ∧
      ∀ l, fs.node? l = some .directory →
        (prepared (Plan.of relative fileName destination) fs).node? l = some .directory := by
  unfold prepared
  split
  · exact ⟨rfl, fun l hl => hl⟩
  · next directory hdirectory =>
      refine filesAfter_makeDirectories (P := fun now =>
        now.workingDirectory = fs.workingDirectory ∧
          ∀ l, fs.node? l = some .directory → now.node? l = some .directory) ?_
        ⟨rfl, fun l hl => hl⟩
      rintro p hp now after ⟨hnow, hkept⟩ hmade
      obtain ⟨parent, name, slash, -, hnone, hputs⟩ := makeDirectory_ok hmade
      refine ⟨hputs.workingDirectory.trans hnow, ?_⟩
      intro l hl
      rw [hputs.node?_of_ne, hkept l hl]
      rintro rfl
      simp [hkept _ hl] at hnone

theorem hasWorkingDirectory_prepared
    (hworking : destination.isAbsolute = false → HasWorkingDirectory fs)
    (hrelative : destination.isAbsolute = false) :
    HasWorkingDirectory (prepared (Plan.of relative fileName destination) fs) := by
  obtain ⟨hdirectory, hkept⟩ := keeps_prepared fs destination relative fileName
  exact (hworking hrelative).of_keeps hdirectory hkept

theorem isAbsolute_of_join {p q : Path} (h : (p.join q).isAbsolute = false) :
    p.isAbsolute = false := by
  by_cases hp : p = []
  · subst hp
    rfl
  · rwa [isAbsolute_join hp] at h

theorem absolute_ne_nil (p : Path) (fs : FileSystem) : p.absolute fs.workingPath ≠ [] := by
  intro hnil
  have habsolute := isAbsolute_absolute p fs
  simp [hnil, isAbsolute] at habsolute

/-- The path of the file in the absolute form of the destination leads to where its path in the
destination led. -/
theorem place_installed {last : LastName} {q : Path} {slash : Bool} (hname : IsPiece fileName)
    (hnul : '\x00' ∉ destination ∧ '\x00' ∉ fileName)
    (hworking : destination.isAbsolute = false → HasWorkingDirectory now)
    (habsolute : (destination.join fileName).isAbsolute = q.isAbsolute)
    (hinner : innerOf (destination.join fileName) = innerOf q) (hslash : q.getLast? ≠ some '/')
    (hfits : Utf8.size ((destination.absolute now.workingPath).join fileName) < pathLimit)
    (hplace : now.place last q = .ok (.entry parent name slash)) :
    now.place last ((destination.absolute now.workingPath).join fileName) =
      .ok (.entry parent name slash) := by
  rw [← absolute_join destination hname] at hfits ⊢
  refine place_absolute_of_place ?_ habsolute hinner ?_ ?_ ?_ hfits hplace
  · rw [mem_join_iff (by decide)]
    exact not_or.mpr hnul
  · rw [getLast?_join destination hname.nonempty]
    exact iff_of_false hname.getLast?_ne_slash hslash
  · simp [innerOf, pieces_join, hname.pieces_eq, hname.componentOfPiece_eq]
  · exact fun hrelative => hworking (isAbsolute_of_join hrelative)

/-- A mode that was set if one was given. -/
def HasMode (mode? : Option Nat) (mode : Nat) : Prop :=
  ∀ given, mode? = some given → mode = given &&& modeMask

/-- The entry is staged with the mode that was given for it. -/
def IsWritten (before : FileSystem) (staged : Path) (mode? : Option Nat) (content : Bytes)
    (now : FileSystem) : Prop :=
  ∃ parent name mode, Written before staged parent name mode content now ∧ HasMode mode? mode

/-- The file has come to where its path led. -/
def IsMoved (path : Path) (mode? : Option Nat) (content : Bytes) (now : FileSystem) : Prop :=
  ∃ before parent name mode, Arrived before (parent ++ [name]) mode content now ∧
    HasMode mode? mode ∧
    (Utf8.size path < pathLimit → before.place .kept path = .ok (.entry parent name false))

theorem ends_prepared (plan : Plan) :
    Ends (· = fs) (performAll (plan.stagingDirectory?.toList.map fun directory =>
      .change (.makeDirectories directory))) (· = prepared plan fs) (fun _ => True) := by
  unfold prepared
  cases plan.stagingDirectory? with
  | none => exact ends_nil fun _ h => h
  | some directory =>
      refine ends_singleton (Ends.change (ends_of_filesAfter ?_ fun _ _ => trivial))
      rintro _ rfl
      rfl

section Steps

variable {mode? : Option Nat}

theorem ends_overwrite (staged : Path) (content : Bytes) :
    Ends (· = fs) (FileChange.overwrite staged content).perform (IsWritten fs staged none content)
      (fun _ => True) := by
  refine ends_perform ?_ fun _ _ => trivial
  rintro _ after rfl hresult
  obtain ⟨parent, name, hplace, hnew, mode, hputs, -⟩ := leadsToFile_overwrite hresult
  exact ⟨parent, name, mode, ⟨hplace, hnew, hputs⟩, by simp [HasMode]⟩

theorem ends_setMode {staged : Path} :
    Ends (IsWritten fs staged none content)
      (performAll (mode?.toList.map fun mode => .change (.setMode staged mode)))
      (IsWritten fs staged mode? content) (fun _ => True) := by
  cases mode? with
  | none => exact ends_nil fun _ h => h
  | some given =>
      refine ends_singleton (Ends.change (ends_perform ?_ fun _ _ => trivial))
      rintro now after ⟨parent, name, mode, hwritten, -⟩ hresult
      refine ⟨parent, name, given &&& modeMask, hwritten.setMode hresult, ?_⟩
      rintro _ ⟨⟩
      rfl

theorem ends_rename (hworking : destination.isAbsolute = false → HasWorkingDirectory fs)
    (hname : IsPiece fileName) (hlink : ¬IsLink fs (destination.join relative)) :
    Ends (IsWritten fs (destination.join relative) mode? content)
      (FileChange.rename (destination.join relative) (destination.join fileName)).perform
      (IsMoved ((destination.absolute fs.workingPath).join fileName) mode? content)
      (fun _ => True) := by
  refine ends_perform ?_ fun _ _ => trivial
  rintro now after ⟨parent, name, mode, hwritten, hmode⟩ hresult
  have hnow : destination.isAbsolute = false → HasWorkingDirectory now :=
    fun hrelative => hwritten.hasWorkingDirectory (hworking hrelative)
  have hpath : fs.workingPath = now.workingPath := by
    rw [workingPath, workingPath, hwritten.puts.workingDirectory]
  obtain ⟨newParent, newName, hplace, -, hmoves⟩ :=
    rename_ok (hwritten.kept hlink) hwritten.puts.node?_self hresult
  refine ⟨now, newParent, newName, mode, arrived_of_moves hmoves hwritten.puts.node?_self, hmode,
    ?_⟩
  intro hfits
  rw [hpath] at hfits ⊢
  have hnul := (followable_of_place hplace).nul
  rw [mem_join_iff (by decide), not_or] at hnul
  refine place_installed hname hnul hnow rfl rfl ?_ hfits hplace
  rw [getLast?_join destination hname.nonempty]
  exact hname.getLast?_ne_slash

theorem ends_removeDirectory (directory : Path) :
    Ends (IsMoved path mode? content) (FileChange.removeDirectory directory).perform
      (IsMoved path mode? content) (fun _ => True) := by
  refine ends_perform ?_ fun _ _ => trivial
  rintro now after ⟨before, parent, name, mode, harrived, hmode, hplace⟩ hresult
  exact ⟨before, parent, name, mode, harrived.removeDirectory hresult, hmode, hplace⟩

end Steps

section Usable

variable {mode? : Option Nat}

/-- A usable file with the mode that was given for it. -/
def IsUsable (directory path : Path) (mode? : Option Nat) (content : Bytes) (now : FileSystem) :
    Prop :=
  ∃ l mode, Usable now directory path l mode content ∧ HasMode mode? mode

theorem isUsable_of_isMoved (hp : p ≠ []) (hname : IsPiece fileName) (hnul : '\x00' ∉ fileName)
    (h : IsMoved (p.join fileName) mode? content now) :
    IsUsable p (p.join fileName) mode? content now := by
  obtain ⟨before, parent, name, mode, harrived, hmode, hplace⟩ := h
  refine ⟨parent ++ [name], mode, usable_of_status hp hname hnul harrived.file ?_, hmode⟩
  intro hfits hdirectory
  exact Arrived.status hp hname hnul (hplace hfits) harrived hdirectory

theorem isUsable_of_isWritten (hworking : destination.isAbsolute = false → HasWorkingDirectory fs)
    (hname : IsPiece fileName) (hnul : '\x00' ∉ fileName)
    (hsame : (destination.join relative).sameAs (destination.join fileName) = true)
    (h : IsWritten fs (destination.join relative) mode? content now) :
    IsUsable (destination.absolute fs.workingPath)
      ((destination.absolute fs.workingPath).join fileName) mode? content now := by
  obtain ⟨parent, name, mode, hwritten, hmode⟩ := h
  have hnow : destination.isAbsolute = false → HasWorkingDirectory now :=
    fun hrelative => hwritten.hasWorkingDirectory (hworking hrelative)
  have hpath : fs.workingPath = now.workingPath := by
    rw [workingPath, workingPath, hwritten.puts.workingDirectory]
  have hplace := (place_of_made hwritten.leadsToFile.place).1
  have hstaged := (followable_of_place hplace).nul
  rw [mem_join_iff (by decide), not_or] at hstaged
  obtain ⟨habsolute, hinner⟩ := of_sameAs hsame
  refine ⟨parent ++ [name], mode, usable_of_status (absolute_ne_nil destination fs) hname hnul
    hwritten.puts.node?_self ?_, hmode⟩
  intro hfits _
  rw [hpath] at hfits ⊢
  have hfound := place_installed hname ⟨hstaged.1, hnul⟩ hnow habsolute.symm hinner.symm
    (getLast?_of_made hwritten.made) hfits hplace
  simp only [status, hfound, hwritten.puts.node?_self, bind, Except.bind]
  rfl

/-- A run that does not end where a fault shows has met none. -/
theorem ends_fault (plan : Plan) (payload : Archive.Payload) :
    Ends (fun _ => True) (performAll (plan.steps mode? payload)) (fun _ => payload.fault = none)
      (fun _ => True) := by
  have hchecked : Ends (fun _ => True) (performAll (payload.fault.toList.map .fault))
      (fun _ => payload.fault = none) (fun _ => True) := by
    cases payload.fault with
    | none => exact ends_nil fun _ _ => rfl
    | some fault => exact ends_singleton fun _ _ => trivial
  exact ends_append (ends_append (ends_append ends_const hchecked) ends_const) ends_const

/-- A run to the end installs a usable file. -/
theorem ends_steps (hworking : destination.isAbsolute = false → HasWorkingDirectory fs)
    (hname : IsPiece fileName) (hnul : '\x00' ∉ fileName)
    (hlink : (destination.join relative).sameAs (destination.join fileName) = true ∨
      ¬IsLink (prepared (Plan.of relative fileName destination) fs) (destination.join relative))
    (payload : Archive.Payload) :
    Ends (· = fs) (performAll ((Plan.of relative fileName destination).steps mode? payload))
      (IsUsable (destination.absolute fs.workingPath)
        ((destination.absolute fs.workingPath).join fileName) mode? payload.bytes)
      (fun _ => True) := by
  obtain ⟨before, hbefore⟩ : ∃ before,
      prepared (Plan.of relative fileName destination) fs = before := ⟨_, rfl⟩
  have hdirectory : destination.isAbsolute = false → HasWorkingDirectory before := by
    rw [← hbefore]
    exact hasWorkingDirectory_prepared hworking
  have hpath : fs.workingPath = before.workingPath := by
    rw [workingPath, workingPath, ← hbefore, (keeps_prepared fs destination relative fileName).1]
  rw [hbefore] at hlink
  rw [hpath]
  have hprepared : Ends (· = fs)
      (performAll ((Plan.of relative fileName destination).stagingDirectory?.toList.map
        fun directory => .change (.makeDirectories directory)))
      (· = before) (fun _ => True) := by
    rw [← hbefore]
    exact ends_prepared _
  have hmode : Ends (IsWritten before (destination.join relative) none payload.bytes)
      (performAll (mode?.toList.map fun mode =>
        .change (.setMode (destination.join relative) mode)))
      (IsWritten before (destination.join relative) mode? payload.bytes) (fun _ => True) :=
    ends_setMode
  have hoverwrite : Ends (· = before)
      (FileChange.overwrite (destination.join relative) payload.bytes).perform
      (IsWritten before (destination.join relative) none payload.bytes) (fun _ => True) :=
    ends_overwrite _ payload.bytes
  -- a file staged by its final path is not moved, and nothing was made for it
  by_cases hsame : (Plan.of relative fileName destination).staged.sameAs
      (Plan.of relative fileName destination).final = true
  · have hnone := stagingDirectory?_eq_none hname hsame
    refine ends_plan hprepared hoverwrite (fun _ _ => trivial) hmode
      (fun _ now h => isUsable_of_isWritten hdirectory hname hnul hsame h) (absurd hsame)
      (fun _ now h => h) fun directory hsome => ?_
    rw [hnone] at hsome
    cases hsome
  · refine ends_plan hprepared hoverwrite (fun _ _ => trivial) hmode (fun h => absurd h hsame)
      (fun _ => ends_rename hdirectory hname (hlink.resolve_left hsame))
      (fun _ _ h => isUsable_of_isMoved (absolute_ne_nil destination before) hname hnul h)
      fun directory _ => (ends_removeDirectory directory).mono ?_
    exact fun _ h => isUsable_of_isMoved (absolute_ne_nil destination before) hname hnul h

end Usable

end Installs

section Delivery

variable [Archive.Decoders] {archive : Bytes} {destination : Path}

/-- An installation that succeeds has carried out all steps of a plan, and returns the path of the
file in the destination. -/
theorem exists_run_of_action (h : action archive name destination fs = .ok path after) :
    ∃ entry payload fileName, ('\x00' ∉ name ∧ (depth? name).isSome = true) ∧
      fileName? name = some fileName ∧ delivered? archive name = some (entry, payload.bytes) ∧
      performAll ((Plan.of name fileName destination).steps entry.mode? payload) fs =
        .ok () after ∧
      path = (destination.absolute fs.workingPath).join fileName := by
  cases hselect : select archive name with
  | error error => simp [action_of_not_select hselect] at h
  | ok selected =>
      obtain ⟨henclosed, hname, entry, hmode, -, hdelivered⟩ := select_eq_ok hselect
      obtain ⟨hrelative, hbelow⟩ := enclosed?_eq_some henclosed
      rw [hrelative] at hname
      rw [action_of_select hselect, hrelative, hmode] at h
      simp only at h
      cases hrun : performAll ((Plan.of name selected.fileName destination).steps entry.mode?
          selected.payload) fs with
      | error error now => simp [hrun] at h
      | ok value now =>
          rw [hrun] at h
          simp only at h
          split at h
          · next told htold =>
              obtain ⟨rfl, rfl⟩ := EStateM.Result.ok.inj h
              have hfault := (ends_fault (Plan.of name selected.fileName destination)
                selected.payload).ended trivial hrun
              have hdirectory := workingDirectory_performAll
                ((Plan.of name selected.fileName destination).steps entry.mode? selected.payload) fs
              rw [hrun] at hdirectory
              refine ⟨entry, selected.payload, selected.fileName, hbelow, hname,
                hdelivered hfault, hrun, ?_⟩
              rw [← (of_absolute_eq_ok htold).2,
                ← absolute_join destination (isPiece_of_fileName? hname), workingPath, workingPath,
                ← hdirectory]
              rfl
          · simp at h

/-- What an installation that succeeds has installed: the entry's data, which is in order and has
the checksum that the archive gives for it, under the last name of the entry in the destination. The
file is usable by the path that is returned, unless a link lay where the entry was staged. -/
theorem action_usable (hworking : destination.isAbsolute = false → HasWorkingDirectory fs)
    (h : action archive name destination fs = .ok path after) :
    ∃ entry content fileName, delivered? archive name = some (entry, content) ∧
      (Archive.checksum content).toNat = entry.checksum ∧
      (components name).getLast? = some (.name fileName) ∧
      path = (destination.absolute fs.workingPath).join fileName ∧
      ((destination.join name).sameAs (destination.join fileName) = true ∨
          ¬IsLink (prepared (Plan.of name fileName destination) fs) (destination.join name) →
        IsUsable (destination.absolute fs.workingPath) path entry.mode? content after) := by
  obtain ⟨entry, payload, fileName, henclosed, hname, hdelivered, hrun, rfl⟩ :=
    exists_run_of_action h
  refine ⟨entry, payload.bytes, fileName, hdelivered, checksum_of_delivered? hdelivered,
    getLast?_of_fileName? hname, rfl, ?_⟩
  intro hlink
  exact (ends_steps hworking (isPiece_of_fileName? hname) (nul_not_mem_fileName henclosed.1 hname)
    hlink payload).ended rfl hrun

end Delivery

section Samples

attribute [local instance] Archive.Decoders.absent

/-- A file system in which one link leads to a directory, and another lies in it under the name of
the validator. -/
def linkedTools : FileSystem :=
  ⟨[(['t'], .link ['r']),
    (['r'], .directory [(Platform.linux.fileName, .link "elsewhere".toList)])], []⟩

theorem hasWorkingDirectory_linkedTools : HasWorkingDirectory linkedTools :=
  ⟨by simp [linkedTools], by decide +kernel⟩

theorem not_isLink_linkedTools :
    ¬IsLink
      (prepared (Plan.of Platform.linux.entryName Platform.linux.fileName ['t']) linkedTools)
      (Path.join ['t'] Platform.linux.entryName) := by
  have hplace :
      (prepared (Plan.of Platform.linux.entryName Platform.linux.fileName ['t']) linkedTools).place
          .kept (Path.join ['t'] Platform.linux.entryName) =
        .ok (.entry [['r'], stagingName] Platform.linux.fileName false) := by
    decide +kernel
  have hnone :
      (prepared (Plan.of Platform.linux.entryName Platform.linux.fileName ['t']) linkedTools).node?
        [['r'], stagingName, Platform.linux.fileName] = none := by
    decide +kernel
  rintro ⟨parent, name, slash, target, hlink, hnode⟩
  rw [hplace] at hlink
  obtain ⟨rfl, rfl, -⟩ := by simpa using hlink
  simp [hnone] at hnode

theorem action_usable_linkedTools :
    ∃ path after,
      action (sampleArchive executable) Platform.linux.entryName ['t'] linkedTools =
          .ok path after ∧
        after.read path = .ok sampleContent := by
  obtain ⟨path, after, haction⟩ : ∃ path after,
      action (sampleArchive executable) Platform.linux.entryName ['t'] linkedTools =
        .ok path after := by
    have hsuccess : isSuccess (action (sampleArchive executable) Platform.linux.entryName ['t']
        linkedTools) = true := by decide +kernel
    cases hresult : action (sampleArchive executable) Platform.linux.entryName ['t']
        linkedTools with
    | ok path after => exact ⟨path, after, rfl⟩
    | error error after =>
        rw [hresult] at hsuccess
        simp [isSuccess] at hsuccess
  obtain ⟨entry, content, fileName, hdelivered, -, hfileName, rfl, husable⟩ :=
    action_usable (fun _ => hasWorkingDirectory_linkedTools) haction
  have hlast : (components Platform.linux.entryName).getLast? =
      some (.name Platform.linux.fileName) := by decide
  obtain rfl : Platform.linux.fileName = fileName := by simpa [hlast] using hfileName
  obtain ⟨hgiven, rfl⟩ : entry.mode? = some 0o100755 ∧ content = sampleContent := by
    have hsample : (delivered? (sampleArchive executable) Platform.linux.entryName).map
        (fun found => (found.1.mode?, found.2)) = some (some 0o100755, sampleContent) := by
      decide +kernel
    simpa [hdelivered] using hsample
  obtain ⟨l, mode, hfound, hmode⟩ := husable (Or.inr not_isLink_linkedTools)
  refine ⟨_, after, haction, hfound.read.mpr ⟨by decide +kernel, ?_, ?_⟩⟩
  · have hdirectory : (filesAfter (action (sampleArchive executable) Platform.linux.entryName ['t']
        linkedTools)).isDirectory (Path.absolute ['t'] linkedTools.workingPath) = true := by
      decide +kernel
    rwa [haction] at hdirectory
  · rw [hmode _ hgiven]
    decide

/-- What is read by the path that an installation of the validator for Linux returns. -/
def readBack (archive : Bytes) (destination : Path) (fs : FileSystem) :
    Option (Except Failure Bytes) :=
  match action archive Platform.linux.entryName destination fs with
  | .ok path after => some (after.read path)
  | .error _ _ => none

/-- A file system in which a link lies where the validator is staged. -/
def linkedStage : FileSystem :=
  ⟨[(stagingName, .directory
      [(Platform.linux.fileName, .link ("../".toList ++ Platform.linux.fileName))])], []⟩

/-- Seventeen names of 255 bytes. -/
def deepNames : Location := List.replicate 17 (List.replicate 255 'd')

/-- A file system whose working directory has a path that is too long. -/
def deep : FileSystem :=
  ⟨deepNames.foldr (fun name below => [(name, .directory below)]) [], deepNames⟩

/-- The path that is returned does not always lead to the file: not where the destination leads
through the directory for staging, nor where its absolute form is too long, nor where a link was
moved in place of the file. Nor can the file be read if its mode does not let its owner. -/
theorem action_not_usable :
    (delivered? (sampleArchive executable) Platform.linux.entryName).map Prod.snd =
        some sampleContent ∧
      readBack (sampleArchive executable) "bin/..".toList
        ⟨[(stagingName, .directory [])], []⟩ = some (.error .notFound) ∧
      readBack (sampleArchive executable) ['.'] deep = some (.error .nameTooLong) ∧
      readBack (sampleArchive executable) ['.'] linkedStage = some (.error .tooManyLinks) ∧
      readBack (sampleArchive [0, 0, 0, 0x80]) ['.'] ⟨[], []⟩ =
        some (.error .permissionDenied) := by
  decide +kernel

end Samples

end ShaderTools.Proofs.UsableInstalls
