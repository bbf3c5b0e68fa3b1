import ShaderTools.Setup
import ShaderTools.Proofs.InstalledFiles

/-!
Repeated attempts at setting up the validator in one directory. Whatever the servers answer, what
is in the directory after some attempts follows from the attempts that got a whole validator.
-/

namespace ShaderTools.Proofs.SetupAttempts

open ShaderTools.FileSystem
open ShaderTools.Install
open ShaderTools.Proofs.PathWalks
open ShaderTools.Proofs.TreeUpdates
open ShaderTools.Proofs.EntryOperations
open ShaderTools.Proofs.InstallSteps
open ShaderTools.Proofs.InstallOutcomes
open ShaderTools.Proofs.InstalledFiles

/-- An attempt at setting up the validator: the platform, and where the archives are. -/
structure Attempt where
  platform : Platform
  base : Text

section Runs

theorem files_follow (asked : Http.Url) (redirections : Nat) (place : Download.Place) (w : World) :
    ((Download.follow asked redirections place).run w).2.files = w.files := by
  induction redirections generalizing place w with
  | zero =>
      rw [Download.follow, Script.run]
      split
      · rfl
      · split
        · rfl
        · split <;> rfl
  | succ redirections ih =>
      rw [Download.follow, Script.run]
      split
      · rfl
      · split
        · rfl
        · split
          · rfl
          · simp only
            split
            · exact ih _ _
            · rfl

theorem files_download (address : Text) (w : World) :
    ((download address).run w).2.files = w.files := by
  rw [run_download]
  unfold Download.fetch
  split
  · rfl
  · simp only
    split
    · rfl
    · split
      · rfl
      · rw [Script.run_bind]
        split <;> exact files_follow _ _ _ _

variable [Archive.Decoders]

/-- The outcome of an attempt in a world, and the world after it. -/
def outcome (destination : Path) (a : Attempt) (w : World) : Except Setup.Error Path × World :=
  (Setup.forPlatform a.platform a.base destination).run w

def worldAfter (destination : Path) : List Attempt → World → World
  | [], w => w
  | a :: rest, w => worldAfter destination rest (outcome destination a w).2

def downloaded (a : Attempt) (w : World) : Except Download.Error Bytes :=
  ((download (a.platform.archiveUrl a.base)).run w).1

/-- The bytes of the validator of a platform, if an archive has all of them and the place where they
are staged has a path that is not too long. -/
def stagedFrom? (archive : Bytes) (p : Platform) (destination : Path) : Option Bytes :=
  if Text.Utf8.size (destination.join p.entryName) < pathLimit then
    (delivered? archive p.entryName).map Prod.snd
  else none

/-- The bytes that an attempt stages whole, if it does. -/
def staged? (destination : Path) (a : Attempt) (w : World) : Option Bytes :=
  match downloaded a w with
  | .error _ => none
  | .ok archive => stagedFrom? archive a.platform destination

/-- The bytes that an attempt stages whole for a file name, if it does. -/
def stagedAs? (destination : Path) (a : Attempt) (w : World) (name : Text) : Option Bytes :=
  if a.platform.fileName = name then staged? destination a w else none

/-- The bytes that the last one of some attempts to do so staged whole for a file name. -/
def latest? (destination : Path) : List Attempt → World → Text → Option Bytes
  | [], _, _ => none
  | a :: rest, w, name =>
      (latest? destination rest (outcome destination a w).2 name).or
        (stagedAs? destination a w name)

theorem run_forPlatform_of_error {p : Platform} {base : Text} {destination : Path} {w : World}
    {error : Download.Error}
    (h : ((download (p.archiveUrl base)).run w).1 = .error error) :
    (Setup.forPlatform p base destination).run w =
      (.error (.download error), ((download (p.archiveUrl base)).run w).2) := by
  simp only [Setup.forPlatform, Script.run_bind, h, Script.run_pure]

theorem run_forPlatform_of_ok {p : Platform} {base : Text} {destination : Path} {w : World}
    {archive : Bytes}
    (h : ((download (p.archiveUrl base)).run w).1 = .ok archive) :
    (Setup.forPlatform p base destination).run w =
      match action archive p.entryName destination w.files with
      | .ok path after =>
          (.ok path, { ((download (p.archiveUrl base)).run w).2 with files := after })
      | .error error after =>
          (.error (.install error),
            { ((download (p.archiveUrl base)).run w).2 with files := after }) := by
  have hfiles := files_download (p.archiveUrl base) w
  simp only [Setup.forPlatform, Script.run_bind, h, run_script, World.act, hfiles]
  cases action archive p.entryName destination w.files <;> rfl

theorem outcome_of_not_downloaded {destination : Path} {a : Attempt} {w : World}
    {error : Download.Error} (h : downloaded a w = .error error) :
    (outcome destination a w).2.files = w.files ∧
      (outcome destination a w).1 = .error (.download error) := by
  simp only [outcome, run_forPlatform_of_error h, files_download, and_self]

theorem outcome_of_downloaded {destination : Path} {a : Attempt} {w : World} {archive : Bytes}
    (h : downloaded a w = .ok archive) :
    (outcome destination a w).2.files =
        filesAfter (action archive a.platform.entryName destination w.files) ∧
      ((∃ path, (outcome destination a w).1 = .ok path) ↔
        isSuccess (action archive a.platform.entryName destination w.files) = true) := by
  rw [outcome, run_forPlatform_of_ok h]
  cases action archive a.platform.entryName destination w.files with
  | ok path after => simp [isSuccess, filesAfter]
  | error error after => simp [isSuccess, filesAfter]

theorem outcome_ne_ok_of_not_isSuccess {destination : Path} {a : Attempt} {w : World}
    {archive : Bytes} (h : downloaded a w = .ok archive)
    (hfails : isSuccess (action archive a.platform.entryName destination w.files) = false)
    (path : Path) : (outcome destination a w).1 ≠ .ok path := by
  intro hpath
  have hsuccess := (outcome_of_downloaded h).2.mp ⟨path, hpath⟩
  rw [hfails] at hsuccess
  simp at hsuccess

end Runs

section Invariant

/-- In the directory for staging, if there is one, lie only new files with the names of
validators. -/
def Tidy (d : Location) (nodes : Location → Option Node) : Prop :=
  ∀ m found, nodes (stagingPlace d ++ m) = some found →
    m = [] ∧ found = .directory ∨ ∃ p content, m = [Platform.fileName p] ∧
      found = .file newFileMode content

/-- What holds after any attempts: of the directory for staging, of the validators, given what was
staged last for each of their names, and of all other files. -/
structure Sound (before : FileSystem) (d : Location) (staged? : Text → Option Bytes)
    (now : FileSystem) : Prop where
  workingDirectory : now.workingDirectory = before.workingDirectory
  tidy : Tidy d now.node?
  untouched : ∀ p : Platform, staged? p.fileName = none →
    now.node? (installedPlace d p) = before.node? (installedPlace d p)
  replaced : ∀ (p : Platform) (content : Bytes), staged? p.fileName = some content →
    ∃ mode, now.node? (installedPlace d p) = some (.file mode content)
  elsewhere : ∀ l, ¬stagingPlace d <+: l → (∀ p, l ≠ installedPlace d p) →
    now.node? l = before.node? l

variable {before now after : FileSystem} {d : Location} {p : Platform} {destination : Path}
  {latest : Text → Option Bytes}

section Tidiness

theorem tidy_preparedNodes (h : Tidy d now.node?) : Tidy d (preparedNodes now d) := by
  intro m found hfound
  unfold preparedNodes at hfound
  split at hfound
  · next hm =>
      left
      exact ⟨by simpa using hm, (Option.some.inj hfound).symm⟩
  · exact h m found hfound

theorem tidy_stagedNodes (h : Tidy d now.node?) (p : Platform) (content : Bytes) :
    Tidy d (stagedNodes now d p newFileMode content) := by
  intro m found hfound
  unfold stagedNodes at hfound
  split at hfound
  · next hm =>
      right
      refine ⟨p, content, ?_, (Option.some.inj hfound).symm⟩
      simpa [stagingPlace, stagedPlace] using hm
  · exact tidy_preparedNodes h m found hfound

theorem stagingPlace_append_ne_installedPlace (d : Location) (p : Platform) (m : Location) :
    stagingPlace d ++ m ≠ installedPlace d p := by
  intro h
  exact not_stagingPlace_prefix_installedPlace d p (h ▸ List.prefix_append _ m)

theorem tidy_movedNodes (h : Tidy d now.node?) (p : Platform) (mode : Nat) (content : Bytes) :
    Tidy d (movedNodes now d p mode content) := by
  intro m found hfound
  rw [movedNodes, if_neg (stagingPlace_append_ne_installedPlace d p m)] at hfound
  split at hfound
  · simp at hfound
  · exact tidy_preparedNodes h m found hfound

theorem tidy_installedNodes (now : FileSystem) (d : Location) (p : Platform) (mode : Nat)
    (content : Bytes) : Tidy d (installedNodes now d p mode content) := by
  intro m found hfound
  rw [installedNodes_eq, if_pos (List.prefix_append _ m)] at hfound
  simp at hfound

theorem tidy_of_shows {nodes : Location → Option Node} (hafter : Shows now after nodes)
    (h : Tidy d nodes) : Tidy d after.node? := by
  intro m found hfound
  exact h m found ((hafter.2 _).symm.trans hfound)

theorem stagedPlace_of_tidy (h : Tidy d now.node?) (p : Platform) :
    now.node? (stagedPlace d p) = none ∨
      ∃ content, now.node? (stagedPlace d p) = some (.file newFileMode content) := by
  have hplace : stagedPlace d p = stagingPlace d ++ [p.fileName] := by
    simp [stagedPlace, stagingPlace]
  cases hnode : now.node? (stagedPlace d p) with
  | none => exact Or.inl rfl
  | some found =>
      rw [hplace] at hnode
      rcases h _ found hnode with ⟨hm, -⟩ | ⟨p', content, -, rfl⟩
      · simp at hm
      · exact Or.inr ⟨content, rfl⟩

theorem writtenMode_of_tidy (h : Tidy d now.node?) (p : Platform) :
    writtenMode (now.node? (stagedPlace d p)) = newFileMode := by
  rcases stagedPlace_of_tidy h p with hnone | ⟨content, hfile⟩
  · rw [hnone]
    rfl
  · rw [hfile]
    change modeAfterWrite newFileMode = newFileMode
    decide

theorem free_of_tidy (h : Tidy d now.node?) :
    now.node? (stagingPlace d) = none ∨ now.node? (stagingPlace d) = some .directory := by
  cases hnode : now.node? (stagingPlace d) with
  | none => exact Or.inl rfl
  | some found =>
      rcases h [] found (by simpa using hnode) with ⟨-, rfl⟩ | ⟨p, content, hm, -⟩
      · exact Or.inr rfl
      · simp at hm

theorem stagingPlace_ne_link_of_tidy (h : Tidy d now.node?) (target : Text) :
    now.node? (stagingPlace d) ≠ some (.link target) := by
  rcases free_of_tidy h with hnone | hdirectory
  · simp [hnone]
  · simp [hdirectory]

theorem stagedPlace_ne_link_of_tidy (h : Tidy d now.node?) (p : Platform) (target : Text) :
    now.node? (stagedPlace d p) ≠ some (.link target) := by
  rcases stagedPlace_of_tidy h p with hnone | ⟨content, hfile⟩
  · simp [hnone]
  · simp [hfile]

theorem canStage_of_tidy (h : Tidy d now.node?)
    (hfits : Text.Utf8.size (destination.join p.entryName) < pathLimit) :
    CanStage now p destination d := by
  refine ⟨hfits, free_of_tidy h, ?_⟩
  rcases stagedPlace_of_tidy h p with hnone | ⟨content, hfile⟩
  · rw [hnone]
    rfl
  · rw [hfile]
    change ownerMayWrite newFileMode = true
    decide

end Tidiness

/-- The files without the validators of all platforms. -/
def withoutValidators (fs : FileSystem) (d : Location) : FileSystem :=
  (fs.erase (installedPlace d .linux)).erase (installedPlace d .windows)

/-- Where attempts may start: the destination starts somewhere and does not lead through a
validator, nothing is staged, and no directory is in the place of a validator. -/
structure Start (fs : FileSystem) (destination : Path) (d : Location) : Prop where
  anchored : ¬Adrift fs destination
  leads : LeadsTo fs destination d
  aside : LeadsTo (withoutValidators fs d) destination d
  unstaged : fs.node? (stagingPlace d) = none
  free : ∀ p, fs.node? (installedPlace d p) ≠ some .directory

theorem node?_withoutValidators (hd : before.node? d = some .directory) (l : Location) :
    (withoutValidators before d).node? l =
      if installedPlace d .windows <+: l then none
      else if installedPlace d .linux <+: l then none
      else before.node? l := by
  have hlinux : ∀ l, (before.erase (installedPlace d .linux)).node? l =
      if installedPlace d .linux <+: l then none else before.node? l := node?_erase hd
  have hd' : (before.erase (installedPlace d .linux)).node? d = some .directory := by
    rw [hlinux, if_neg (installedPlace_not_above d .linux)]
    exact hd
  rw [withoutValidators, ← hlinux]
  exact node?_erase hd' l

theorem keeps_of_sound (hstart : Start before destination d) (h : Sound before d latest now)
    {l : Location} {found : Node} (hnode : (withoutValidators before d).node? l = some found) :
    now.node? l = some found ∧ ∀ p, ¬installedPlace d p <+: l := by
  rw [node?_withoutValidators hstart.leads.node] at hnode
  split at hnode
  · simp at hnode
  split at hnode
  · simp at hnode
  · next hwindows hlinux =>
      have hvalidators : ∀ p, ¬installedPlace d p <+: l := by
        intro p
        cases p with
        | windows => exact hwindows
        | linux => exact hlinux
        | osx => exact hlinux
      refine ⟨?_, hvalidators⟩
      rw [h.elsewhere, hnode]
      · intro hbelow
        rw [node?_below_none hstart.unstaged hbelow] at hnode
        simp at hnode
      · rintro p rfl
        exact hvalidators p (List.prefix_refl _)

theorem leadsTo_of_sound (hstart : Start before destination d) (h : Sound before d latest now) :
    LeadsTo now destination d := by
  have hkeeps : ∀ l found, LeadsOn found →
      (withoutValidators before d).node? l = some found → now.node? l = some found :=
    fun l found _ hnode => (keeps_of_sound hstart h hnode).1
  exact ⟨status_of_keeps hkeeps h.workingDirectory hstart.aside.status,
    hkeeps d .directory (Or.inl rfl) hstart.aside.node⟩

theorem leadsTo_erase_of_sound (hstart : Start before destination d)
    (h : Sound before d latest now) (p : Platform) :
    LeadsTo (now.erase (installedPlace d p)) destination d := by
  have hd := leadsTo_of_sound hstart h
  have hkeeps : ∀ l found, LeadsOn found →
      (withoutValidators before d).node? l = some found →
        (now.erase (installedPlace d p)).node? l = some found := by
    intro l found _ hnode
    obtain ⟨hnow, hvalidators⟩ := keeps_of_sound hstart h hnode
    rw [node?_erase_installedPlace hd, if_neg (hvalidators p), hnow]
  exact ⟨status_of_keeps hkeeps h.workingDirectory hstart.aside.status,
    hkeeps d .directory (Or.inl rfl) hstart.aside.node⟩

theorem free_of_sound (hstart : Start before destination d) (h : Sound before d latest now)
    (p : Platform) : now.node? (installedPlace d p) ≠ some .directory := by
  cases hlatest : latest p.fileName with
  | none =>
      rw [h.untouched p hlatest]
      exact hstart.free p
  | some content =>
      obtain ⟨mode, hfile⟩ := h.replaced p content hlatest
      simp [hfile]

/-- The working directory is still there after any attempts, where that matters. -/
theorem moored_of_sound (hstart : Start before destination d) (h : Sound before d latest now) :
    ¬Unmoored now destination d := by
  rintro ⟨hrelative, hgone⟩
  have hworking : before.node? before.workingDirectory = some .directory := by
    by_contra hmissing
    exact hstart.anchored ⟨hrelative, hmissing⟩
  have hapart : ¬stagingPlace d <+: before.workingDirectory := by
    intro hbelow
    rw [node?_below_none hstart.unstaged hbelow] at hworking
    simp at hworking
  have hsame : now.node? now.workingDirectory = some .directory := by
    rw [h.workingDirectory, h.elsewhere _ hapart, hworking]
    intro p hplace
    exact hstart.free p (hplace ▸ hworking)
  rcases hgone with hmissing | hstaging
  · exact hmissing hsame
  · rw [← h.workingDirectory, hstaging] at hapart
    exact hapart (List.prefix_refl _)

theorem sound_of_unchanged (h : Sound before d latest now)
    (hworking : after.workingDirectory = now.workingDirectory) (htidy : Tidy d after.node?)
    (hsame : ∀ l, ¬stagingPlace d <+: l → after.node? l = now.node? l) :
    Sound before d latest after where
  workingDirectory := hworking.trans h.workingDirectory
  tidy := htidy
  untouched p hnone := by
    rw [hsame _ (not_stagingPlace_prefix_installedPlace d p)]
    exact h.untouched p hnone
  replaced p content hsome := by
    rw [hsame _ (not_stagingPlace_prefix_installedPlace d p)]
    exact h.replaced p content hsome
  elsewhere l hstaging hvalidators := by
    rw [hsame l hstaging]
    exact h.elsewhere l hstaging hvalidators

theorem sound_of_replaced {mode : Nat} {content : Bytes} (h : Sound before d latest now)
    (hworking : after.workingDirectory = now.workingDirectory) (htidy : Tidy d after.node?)
    (hfile : after.node? (installedPlace d p) = some (.file mode content))
    (hsame : ∀ l, ¬stagingPlace d <+: l → l ≠ installedPlace d p →
      after.node? l = now.node? l) :
    Sound before d
      (fun name => (if p.fileName = name then some content else none).or (latest name))
      after where
  workingDirectory := hworking.trans h.workingDirectory
  tidy := htidy
  untouched p' hnone := by
    split at hnone
    · simp at hnone
    · next hname =>
        rw [hsame _ (not_stagingPlace_prefix_installedPlace d p') (by
          simp [installedPlace, Ne.symm hname])]
        exact h.untouched p' (by simpa using hnone)
  replaced p' content' hsome := by
    split at hsome
    · next hname =>
        obtain rfl : content = content' := by simpa using hsome
        refine ⟨mode, ?_⟩
        rw [installedPlace, ← hname]
        exact hfile
    · next hname =>
        rw [hsame _ (not_stagingPlace_prefix_installedPlace d p') (by
          simp [installedPlace, Ne.symm hname])]
        exact h.replaced p' content' (by simpa using hsome)
  elsewhere l hstaging hvalidators := by
    rw [hsame l hstaging (hvalidators p)]
    exact h.elsewhere l hstaging hvalidators

theorem ne_of_not_stagingPlace_prefix {l : Location} (hl : ¬stagingPlace d <+: l) (p : Platform) :
    l ≠ stagingPlace d ∧ l ≠ stagedPlace d p := by
  constructor
  · rintro rfl
    exact hl (List.prefix_refl _)
  · rintro rfl
    exact hl (by simp [stagingPlace, stagedPlace])

theorem sound_start (hstart : Start before destination d) :
    Sound before d (fun _ => none) before where
  workingDirectory := rfl
  tidy m found hfound := by
    rw [node?_below_none hstart.unstaged (List.prefix_append _ m)] at hfound
    simp at hfound
  untouched _ _ := rfl
  replaced _ _ hsome := by simp at hsome
  elsewhere _ _ _ := rfl

section Attempts

variable [Archive.Decoders]

theorem stagedFrom?_of_not_canStage {archive : Bytes} (h : Tidy d now.node?)
    (hblocked : ¬CanStage now p destination d) : stagedFrom? archive p destination = none := by
  -- in a tidy directory staging can only fail for the length of the path
  rw [stagedFrom?, if_neg]
  intro hfits
  exact hblocked (canStage_of_tidy h hfits)

theorem stagedFrom?_of_canStage {archive : Bytes} {entry : Archive.Entry} {content : Bytes}
    (hstage : CanStage now p destination d)
    (hdelivered : delivered? archive p.entryName = some (entry, content)) :
    stagedFrom? archive p destination = some content := by
  rw [stagedFrom?, if_pos hstage.fits, hdelivered]
  rfl

theorem sound_installation {archive : Bytes} {entry : Archive.Entry} {payload : Archive.Payload}
    {mode? : Option Nat} {failed? : Option Step} (hstart : Start before destination d)
    (h : Sound before d latest now)
    (hdelivered : delivered? archive p.entryName =
      if payload.fault = none then some (entry, payload.bytes) else none)
    (hinstallation : Installation now p destination d mode? payload failed? after) :
    Sound before d
      (fun name => (if p.fileName = name then stagedFrom? archive p destination else none).or
        (latest name)) after := by
  cases hinstallation with
  | unprepared hblocked => simpa [stagedFrom?_of_not_canStage h.tidy hblocked] using h
  | unstaged hblocked hfree hafter =>
      have hsound : Sound before d latest after := by
        apply sound_of_unchanged h hafter.1 (tidy_of_shows hafter (tidy_preparedNodes h.tidy))
        intro l hl
        obtain ⟨hstaging, -⟩ := ne_of_not_stagingPlace_prefix hl p
        rw [hafter.2, preparedNodes_of_ne hstaging]
      simpa [stagedFrom?_of_not_canStage h.tidy hblocked] using hsound
  | faulty hstage hfault hafter =>
      have hnone : stagedFrom? archive p destination = none := by
        simp [stagedFrom?, hdelivered, hfault]
      rw [writtenMode_of_tidy h.tidy p] at hafter
      have hsound : Sound before d latest after := by
        apply sound_of_unchanged h hafter.1
          (tidy_of_shows hafter (tidy_stagedNodes h.tidy p payload.bytes))
        intro l hl
        obtain ⟨hstaging, hstaged⟩ := ne_of_not_stagingPlace_prefix hl p
        rw [hafter.2, stagedNodes_of_ne hstaged, preparedNodes_of_ne hstaging]
      simpa [hnone] using hsound
  | unmoved hstage hfault hblocked hafter =>
      exact absurd hblocked (free_of_sound hstart h p)
  | uncleared hstage hfault hfree hblocked hafter =>
      rw [if_pos hfault] at hdelivered
      rw [stagedFrom?_of_canStage hstage hdelivered]
      apply sound_of_replaced h hafter.1
        (tidy_of_shows hafter (tidy_movedNodes h.tidy p _ payload.bytes))
        ((hafter.2 _).trans movedNodes_installedPlace)
      intro l hl hinstalled
      obtain ⟨hstaging, hstaged⟩ := ne_of_not_stagingPlace_prefix hl p
      rw [hafter.2, movedNodes_of_ne hinstalled hstaged, preparedNodes_of_ne hstaging]
  | installed hstage hfault hfree hclear hafter =>
      rw [if_pos hfault] at hdelivered
      rw [stagedFrom?_of_canStage hstage hdelivered]
      apply sound_of_replaced h hafter.1
        (tidy_of_shows hafter (tidy_installedNodes now d p _ payload.bytes))
        ((hafter.2 _).trans (if_pos rfl))
      intro l hl hinstalled
      rw [hafter.2, installedNodes, if_neg hinstalled, if_neg hl]

/-- An attempt keeps the invariant. -/
theorem sound_outcome {a : Attempt} {w : World} (hstart : Start before destination d)
    (h : Sound before d latest w.files) :
    Sound before d (fun name => (stagedAs? destination a w name).or (latest name))
      (outcome destination a w).2.files := by
  unfold stagedAs? staged?
  cases hdownloaded : downloaded a w with
  | error error =>
      rw [(outcome_of_not_downloaded hdownloaded).1]
      simpa using h
  | ok archive =>
      rw [(outcome_of_downloaded hdownloaded).1]
      rcases action_cases archive (leadsTo_of_sound hstart h)
        (stagingPlace_ne_link_of_tidy h.tidy) (stagedPlace_ne_link_of_tidy h.tidy a.platform) with
        ⟨error, haction, hnone⟩ | ⟨entry, payload, hdelivered, hresult⟩
      · rw [haction]
        simpa [stagedFrom?, hnone, filesAfter] using h
      · rcases hresult with ⟨step, error, after, hinstallation, -, haction⟩ |
          ⟨after, hinstallation, -, -, haction⟩ | ⟨after, hinstallation, -, haction⟩
        · rw [haction]
          exact sound_installation hstart h hdelivered hinstallation
        · rw [haction]
          exact sound_installation hstart h hdelivered hinstallation
        · rw [haction]
          exact sound_installation hstart h hdelivered hinstallation

/-- The invariant holds after any number of attempts. -/
theorem sound_worldAfter {w : World} (attempts : List Attempt)
    (hstart : Start before destination d) (h : Sound before d latest w.files) :
    Sound before d (fun name => (latest? destination attempts w name).or (latest name))
      (worldAfter destination attempts w).files := by
  induction attempts generalizing w latest with
  | nil => simpa [latest?, worldAfter] using h
  | cons a rest ih =>
      have hrest := ih (sound_outcome (a := a) hstart h)
      simpa only [latest?, worldAfter, Option.or_assoc] using hrest

theorem canInstall_iff_of_sound {archive : Bytes} (hstart : Start before destination d)
    (h : Sound before d latest now)
    (hstaged : (stagedFrom? archive p destination).isSome) :
    CanInstall archive now p destination d ↔
      ∀ p' : Platform, p'.fileName ≠ p.fileName → now.node? (stagedPlace d p') = none := by
  constructor
  · intro hcan p' hname
    exact hcan.clear.alone p'.fileName hname
  · intro halone
    obtain ⟨hfits, hdelivered⟩ : Text.Utf8.size (destination.join p.entryName) < pathLimit ∧
        (delivered? archive p.entryName).isSome := by
      unfold stagedFrom? at hstaged
      split at hstaged
      · next hfits => exact ⟨hfits, by simpa using hstaged⟩
      · simp at hstaged
    refine ⟨hdelivered, canStage_of_tidy h.tidy hfits, free_of_sound hstart h p,
      ⟨leadsTo_erase_of_sound hstart h p, ?_⟩, moored_of_sound hstart h⟩
    intro name hname
    cases hnode : now.node? (d ++ [stagingName, name]) with
    | none => rfl
    | some found =>
        have hplace : d ++ [stagingName, name] = stagingPlace d ++ [name] := by
          simp [stagingPlace]
        rw [hplace] at hnode
        rcases h.tidy [name] found hnode with ⟨hm, -⟩ | ⟨p', content, hm, -⟩
        · simp at hm
        · obtain rfl : name = p'.fileName := by simpa using hm
          rw [← hplace] at hnode
          rw [show d ++ [stagingName, p'.fileName] = stagedPlace d p' from rfl,
            halone p' hname] at hnode
          simp at hnode

theorem outcome_ok_iff_of_sound {a : Attempt} {w : World} (hstart : Start before destination d)
    (h : Sound before d latest w.files) (hstaged : (staged? destination a w).isSome) :
    (∃ path, (outcome destination a w).1 = .ok path) ↔
      ∀ p : Platform, p.fileName ≠ a.platform.fileName →
        w.files.node? (stagedPlace d p) = none := by
  unfold staged? at hstaged
  cases hdownloaded : downloaded a w with
  | error error => simp [hdownloaded] at hstaged
  | ok archive =>
      rw [(outcome_of_downloaded hdownloaded).2,
        isSuccess_iff_canInstall archive (leadsTo_of_sound hstart h)
          (stagingPlace_ne_link_of_tidy h.tidy) (stagedPlace_ne_link_of_tidy h.tidy a.platform)]
      apply canInstall_iff_of_sound hstart h
      simpa [hdownloaded] using hstaged

/-- After any attempts, whatever was answered: nothing but new files of validators is staged, each
validator is the one that was staged whole last, or untouched, and nothing else has changed. A
further attempt that stages a validator whole succeeds if and only if no other one is still
staged. -/
theorem sound_attempts (attempts : List Attempt) (w : World)
    (hstart : Start w.files destination d) :
    Sound w.files d (latest? destination attempts w) (worldAfter destination attempts w).files ∧
      ∀ next : Attempt, (staged? destination next (worldAfter destination attempts w)).isSome →
        ((∃ path, (outcome destination next (worldAfter destination attempts w)).1 = .ok path) ↔
          ∀ p : Platform, p.fileName ≠ next.platform.fileName →
            (worldAfter destination attempts w).files.node? (stagedPlace d p) = none) := by
  have hsound := sound_worldAfter attempts hstart (sound_start hstart)
  simp only [Option.or_none] at hsound
  exact ⟨hsound, fun next hnext => outcome_ok_iff_of_sound hstart hsound hnext⟩

end Attempts

end Invariant

section Samples

attribute [local instance] Archive.Decoders.absent

/-- A world in which every request is answered with the same bytes. -/
def answering (body : Bytes) (fs : FileSystem) : World :=
  ⟨fun _ => .ok ⟨200, [], [], body.length, body⟩, fs, [], [], [], []⟩

def sampleAttempt : Attempt := ⟨.linux, "http://host".toList⟩

/-- A world of one file, in which every request is answered with the sample archive. -/
def sampleWorld : World :=
  answering (sampleArchive executable) ⟨[("notes".toList, .file 0o644 [])], []⟩

theorem sound_attempts_sample :
    Start sampleWorld.files ['.'] [] ∧
      Sound sampleWorld.files [] (latest? ['.'] [sampleAttempt, sampleAttempt] sampleWorld)
        (worldAfter ['.'] [sampleAttempt, sampleAttempt] sampleWorld).files ∧
      latest? ['.'] [sampleAttempt, sampleAttempt] sampleWorld Platform.linux.fileName =
        some sampleContent := by
  have hstart : Start sampleWorld.files ['.'] [] := by
    refine ⟨?_, ⟨by decide +kernel, by decide +kernel⟩, ⟨by decide +kernel, by decide +kernel⟩,
      by decide +kernel, ?_⟩
    · rintro ⟨-, hgone⟩
      exact hgone (by decide +kernel)
    intro p
    cases p <;> decide +kernel
  exact ⟨hstart, (sound_attempts [sampleAttempt, sampleAttempt] sampleWorld hstart).1,
    by decide +kernel⟩

/-- A first attempt that gets a whole validator fails where the destination leads through a link
that the validator replaces, and where the path is too long. -/
theorem attempt_fails_unstaged :
    (delivered? (sampleArchive executable) Platform.linux.entryName).isSome ∧
    (LeadsTo linkedHere Platform.linux.fileName [] ∧
      linkedHere.node? (stagingPlace []) = none ∧
      (∀ p, linkedHere.node? (installedPlace [] p) ≠ some .directory) ∧
      downloaded sampleAttempt (answering (sampleArchive executable) linkedHere) =
        .ok (sampleArchive executable) ∧
      ∀ path, (outcome Platform.linux.fileName sampleAttempt
        (answering (sampleArchive executable) linkedHere)).1 ≠ .ok path) ∧
    (LeadsTo ⟨[], []⟩ slashes [] ∧
      (FileSystem.mk [] []).node? (stagingPlace []) = none ∧
      (∀ p, (FileSystem.mk [] []).node? (installedPlace [] p) ≠ some .directory) ∧
      downloaded sampleAttempt (answering (sampleArchive executable) ⟨[], []⟩) =
        .ok (sampleArchive executable) ∧
      ∀ path, (outcome slashes sampleAttempt (answering (sampleArchive executable) ⟨[], []⟩)).1 ≠
        .ok path) := by
  have hlinked : downloaded sampleAttempt (answering (sampleArchive executable) linkedHere) =
      .ok (sampleArchive executable) := by decide +kernel
  have hempty : downloaded sampleAttempt (answering (sampleArchive executable) ⟨[], []⟩) =
      .ok (sampleArchive executable) := by decide +kernel
  refine ⟨by decide +kernel,
    ⟨⟨by decide +kernel, by decide +kernel⟩, by decide +kernel, ?_, hlinked, ?_⟩,
    ⟨leadsTo_slashes, by decide +kernel, ?_, hempty, ?_⟩⟩
  · intro p
    cases p <;> decide +kernel
  · apply outcome_ne_ok_of_not_isSuccess hlinked
    decide +kernel
  · intro p
    cases p <;> decide +kernel
  · exact outcome_ne_ok_of_not_isSuccess hempty isSuccess_slashes

end Samples

end ShaderTools.Proofs.SetupAttempts
