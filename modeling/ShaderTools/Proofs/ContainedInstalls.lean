import ShaderTools.Proofs.ContainedPaths
import ShaderTools.Proofs.StagedPaths
import ShaderTools.Proofs.StepRuns

/-!
Installations stay below their destination. Each step of an installation keeps every node that is
not below it, and all but the last one keep the directories below it and put no link there, so the
paths of the next step lead below it as well.
-/

namespace ShaderTools.Proofs.ContainedInstalls

open ShaderTools.Text
open ShaderTools.FileSystem
open ShaderTools.Install
open ShaderTools.Path
open ShaderTools.Proofs.TextPieces
open ShaderTools.Proofs.JoinedPaths
open ShaderTools.Proofs.PathWalks
open ShaderTools.Proofs.TreeUpdates
open ShaderTools.Proofs.EntryOperations
open ShaderTools.Proofs.InstallSteps
open ShaderTools.Proofs.InstalledFiles
open ShaderTools.Proofs.WalkEnds
open ShaderTools.Proofs.AbsolutePaths
open ShaderTools.Proofs.StagedPaths
open ShaderTools.Proofs.ContainedPaths
open ShaderTools.Proofs.OperationEffects
open ShaderTools.Proofs.StepRuns

/-- Nothing is new, other or gone but below a directory. -/
structure Contained (fs : FileSystem) (d : Location) (now : FileSystem) : Prop where
  workingDirectory : now.workingDirectory = fs.workingDirectory
  outside : ∀ l, ¬(d <+: l ∧ l ≠ d) → now.node? l = fs.node? l

/-- Moreover no directory is gone, and no link lies below the directory. -/
structure Within (fs : FileSystem) (d : Location) (now : FileSystem) : Prop
    extends Contained fs d now where
  directories : ∀ l, fs.node? l = some .directory → now.node? l = some .directory
  links : ∀ m target, now.node? (d ++ m) ≠ some (.link target)

variable {fs now after : FileSystem} {destination : Path} {d : Location}

section Within

theorem within_self (hlinks : ∀ m target, fs.node? (d ++ m) ≠ some (.link target)) :
    Within fs d fs :=
  ⟨⟨rfl, fun _ _ => rfl⟩, fun _ h => h, hlinks⟩

/-- The destination still leads to its directory. -/
theorem Within.leads (h : Within fs d now) (hd : LeadsTo fs destination d)
    (hlinks : ∀ m target, fs.node? (d ++ m) ≠ some (.link target)) :
    LeadsTo now destination d := by
  refine ⟨status_of_keeps ?_ h.workingDirectory hd.status, h.directories d hd.node⟩
  rintro l found (rfl | ⟨target, rfl⟩) hl
  · exact h.directories l hl
  · rw [h.outside, hl]
    rintro ⟨⟨m, rfl⟩, -⟩
    exact hlinks m target hl

theorem below_concat {parent : Location} (h : d <+: parent) (name : Text) :
    d <+: parent ++ [name] ∧ parent ++ [name] ≠ d := by
  refine ⟨h.trans (List.prefix_append _ _), ?_⟩
  rintro rfl
  have hlength := h.length_le
  rw [List.length_append, List.length_singleton] at hlength
  omega

theorem Contained.of_puts {parent : Location} {name : Text} {node? : Option Node}
    (h : Contained fs d now) (hparent : d <+: parent)
    (hputs : Puts now after (parent ++ [name]) node?) : Contained fs d after := by
  refine ⟨hputs.workingDirectory.trans h.workingDirectory, ?_⟩
  intro l hl
  rw [hputs.node?_of_ne, h.outside l hl]
  rintro rfl
  exact hl (below_concat hparent name)

theorem Within.of_puts {parent : Location} {name : Text} {node : Node} (h : Within fs d now)
    (hparent : d <+: parent) (hputs : Puts now after (parent ++ [name]) (some node))
    (hlink : ∀ target, node ≠ .link target)
    (hold : now.node? (parent ++ [name]) ≠ some .directory) : Within fs d after := by
  refine ⟨h.toContained.of_puts hparent hputs, ?_, ?_⟩
  · intro l hl
    have hnow := h.directories l hl
    rw [hputs.node?_of_ne, hnow]
    rintro rfl
    exact hold hnow
  · intro m target
    rw [hputs.nodes]
    split
    · simpa using hlink target
    · exact h.links m target

theorem Within.of_moves {oldParent newParent : Location} {oldName newName : Text} {mode : Nat}
    {content : Bytes} (h : Within fs d now) (holdParent : d <+: oldParent)
    (hnewParent : d <+: newParent)
    (hmoves : Moves now after (oldParent ++ [oldName]) (newParent ++ [newName])
      (.file mode content))
    (hfile : now.node? (oldParent ++ [oldName]) = some (.file mode content))
    (hfree : now.node? (newParent ++ [newName]) ≠ some .directory) : Within fs d after := by
  refine ⟨⟨hmoves.workingDirectory.trans h.workingDirectory, ?_⟩, ?_, ?_⟩
  · intro l hl
    rw [hmoves.nodes, if_neg, if_neg, h.outside l hl]
    · rintro rfl
      exact hl (below_concat holdParent oldName)
    · rintro rfl
      exact hl (below_concat hnewParent newName)
  · intro l hl
    have hnow := h.directories l hl
    rw [hmoves.nodes, if_neg, if_neg, hnow]
    · rintro rfl
      simp [hfile] at hnow
    · rintro rfl
      exact hfree hnow
  · intro m target
    rw [hmoves.nodes]
    split
    · simp
    · split
      · simp
      · exact h.links m target

end Within

section Pieces

/-- Pieces of a path that never climbs above its start. -/
structure Inside (pieces : List Text) : Prop where
  slash : ∀ piece ∈ pieces, '/' ∉ piece
  nul : ∀ piece ∈ pieces, '\x00' ∉ piece
  stays : StaysBelow 0 ((pieces.filter (· ≠ [])).map Route.stepOfPiece)

theorem Inside.front {pieces front : List Text} (h : Inside pieces)
    (hfront : front <+: pieces) : Inside front := by
  obtain ⟨more, rfl⟩ := hfront
  refine ⟨fun piece hpiece => h.slash piece (List.mem_append_left _ hpiece),
    fun piece hpiece => h.nul piece (List.mem_append_left _ hpiece), ?_⟩
  have hstays := h.stays
  rw [List.filter_append, List.map_append] at hstays
  exact hstays.of_append

theorem Inside.nul_not_mem {pieces : List Text} (h : Inside pieces) :
    '\x00' ∉ List.intercalate ['/'] pieces := by
  intro hnul
  obtain ⟨piece, hpiece, hmem⟩ := exists_piece_of_mem hnul (by decide)
  rw [pieces_intercalate h.slash] at hpiece
  exact h.nul piece (List.mem_of_mem_filter hpiece) hmem

theorem Inside.pieces_ne_nil {pieces : List Text} (h : Inside pieces)
    (hname : ∃ name ∈ pieces, name ≠ []) : Path.pieces (List.intercalate ['/'] pieces) ≠ [] := by
  obtain ⟨name, hname, hne⟩ := hname
  rw [pieces_intercalate h.slash]
  exact List.ne_nil_of_mem (List.mem_filter.mpr ⟨hname, by simpa using hne⟩)

theorem Inside.staysBelow {pieces : List Text} (h : Inside pieces) :
    StaysBelow 0 ((Path.pieces (List.intercalate ['/'] pieces)).map Route.stepOfPiece) := by
  rw [pieces_intercalate h.slash]
  exact h.stays

theorem split_filter (t : Text) : (split (· = '/') t).filter (· ≠ []) = pieces t := by
  rw [← pieces_intercalate fun _ => slash_not_mem_split, intercalate_split]

theorem inside_split {name : Text} (hnul : '\x00' ∉ name) (hdepth : (depth? name).isSome = true) :
    Inside (split (· = '/') name) := by
  refine ⟨fun _ => slash_not_mem_split, ?_, ?_⟩
  · intro piece hpiece hmem
    have hpieces : piece ∈ pieces name := by
      rw [← split_filter]
      refine List.mem_filter.mpr ⟨hpiece, ?_⟩
      rw [decide_eq_true_eq]
      rintro rfl
      simp at hmem
    exact hnul ((of_mem_pieces hpieces).2.2 _ hmem)
  · rw [split_filter]
    exact staysBelow_of_depth? hdepth

end Pieces

section Operations

theorem exists_of_not_isSkipped (front : List Text) {last : Text} (h : isSkipped last = false) :
    ∃ name ∈ front ++ [last], name ≠ [] := by
  refine ⟨last, by simp, ?_⟩
  rintro rfl
  simp [isSkipped] at h

variable (hd : LeadsTo fs destination d)
  (hlinks : ∀ m target, fs.node? (d ++ m) ≠ some (.link target))

include hd hlinks

theorem leadsBelow {last : LastName} {pieces : List Text} (h : Within fs d now)
    (hinside : Inside pieces) (hname : ∃ name ∈ pieces, name ≠ []) (hlast : last ≠ .followed) :
    LeadsBelow now d last (destination.join (List.intercalate ['/'] pieces)) :=
  leadsBelow_join (h.leads hd hlinks) h.links hlast hinside.nul_not_mem
    (hinside.pieces_ne_nil hname) hinside.staysBelow

theorem makeDirectory_ne_notFound {front : List Text} {last : Text} (h : Within fs d now)
    (hinside : Inside (front ++ [last])) (hlast : isSkipped last = false)
    (hfront : front.rdropWhile isSkipped = []) :
    now.makeDirectory (destination.join (List.intercalate ['/'] (front ++ [last]))) ≠
      .error .notFound := by
  intro hmissing
  have hskipped : ∀ piece ∈ front, isSkipped piece = true := by
    simpa [List.rdropWhile_eq_nil_iff] using hfront
  have hstay : ∀ step ∈ (front.filter (· ≠ [])).map Route.stepOfPiece, step = .here := by
    intro step hstep
    obtain ⟨piece, hpiece, rfl⟩ := List.mem_map.mp hstep
    obtain ⟨hmem, hne⟩ := List.mem_filter.mp hpiece
    have hdot : piece = ['.'] := by simpa [isSkipped, of_decide_eq_true hne] using hskipped _ hmem
    rw [hdot]
    rfl
  have hne : last ≠ [] := by
    rintro rfl
    simp [isSkipped] at hlast
  have hdot : last ≠ ['.'] := by
    rintro rfl
    simp [isSkipped] at hlast
  have hsplit : ((front ++ [last]).filter (· ≠ [])).map Route.stepOfPiece =
      (front.filter (· ≠ [])).map Route.stepOfPiece ++ [Route.stepOfPiece last] := by
    simp [List.filter_append, hne]
  have hstep : Route.stepOfPiece last = .name last := by
    have hstays := hinside.stays
    rw [hsplit] at hstays
    have hlastStays := hstays.of_skip hstay
    by_cases hdots : last = ['.', '.']
    · rw [hdots] at hlastStays
      exact hlastStays.elim
    · simp [Route.stepOfPiece, hdot, hdots]
  rw [hstep, ← pieces_intercalate hinside.slash] at hsplit
  apply place_ne_notFound (h.leads hd hlinks) hinside.nul_not_mem hstay hsplit
  · cases hplace : now.place .kept
        (destination.join (List.intercalate ['/'] (front ++ [last]))) with
    | error failure => simpa [makeDirectory, hplace, bind, Except.bind] using hmissing
    | ok place =>
        cases place with
        | directory l =>
            simp [makeDirectory, hplace, bind, Except.bind, throw, throwThe,
              MonadExceptOf.throw] at hmissing
        | entry parent name slash =>
            have hnamed := exists_of_not_isSkipped front hlast
            obtain ⟨-, hparent⟩ :=
              leadsBelow hd hlinks h hinside hnamed (by simp) parent name slash hplace
            simp only [makeDirectory, hplace, bind, Except.bind, add_of_directory hparent]
              at hmissing
            split at hmissing <;> simp [throw, throwThe, MonadExceptOf.throw] at hmissing

/-- What the making of each directory below the destination keeps is kept by the making of them
all. -/
theorem filesAfter_makeDirectories_join {P : FileSystem → Prop} {pieces front : List Text}
    {last : Text} (hwithin : ∀ now, P now → Within fs d now) (hinside : Inside pieces)
    (hmake : ∀ front last, front ++ [last] <+: pieces → isSkipped last = false →
      ∀ now after, P now → now.makeDirectory
        (destination.join (List.intercalate ['/'] (front ++ [last]))) = .ok after → P after)
    (hfront : front ++ [last] <+: pieces) (hlast : isSkipped last = false) (h : P now) :
    P (filesAfter (makeDirectories
      (destination.join (List.intercalate ['/'] (front ++ [last]))) now)) := by
  -- on the pieces before the last one: skipped ones go together with the name they follow
  induction hlength : front.length using Nat.strong_induction_on generalizing front last with
  | _ length ih =>
      have hp := (path_of_leadsTo hd).1
      have hinside' := hinside.front hfront
      rw [makeDirectories, makeDirectoriesOf, if_neg (join_ne_nil hp _)]
      refine filesAfter_makeDirectoryAfter (hmake front last hfront hlast) ?_ h
      intro hmissing
      by_cases hkept : front.rdropWhile isSkipped = []
      · exact absurd hmissing
          (makeDirectory_ne_notFound hd hlinks (hwithin now h) hinside' hlast hkept)
      · rw [ancestors_join hp hinside'.slash hlast hkept]
        obtain ⟨front', last', hbefore⟩ : ∃ front' last',
            front.rdropWhile isSkipped = front' ++ [last'] :=
          (List.eq_nil_or_concat' _).resolve_left hkept
        have hbeginning : front' ++ [last'] <+: front := hbefore ▸ List.rdropWhile_prefix _ _
        have hshorter : front'.length < length := by
          have hlength' := hbeginning.length_le
          rw [List.length_append, List.length_singleton] at hlength'
          omega
        rw [hbefore]
        exact ih front'.length hshorter
          (hbeginning.trans ((List.prefix_append _ _).trans hfront))
          (isSkipped_of_getLast?_rdropWhile front (by simp [hbefore])) rfl

theorem makeDirectory_below {front : List Text} {last : Text} (h : Within fs d now)
    (hinside : Inside (front ++ [last])) (hlast : isSkipped last = false)
    (hmade : now.makeDirectory (destination.join (List.intercalate ['/'] (front ++ [last]))) =
      .ok after) :
    ∃ parent name slash,
      now.place .kept (destination.join (List.intercalate ['/'] (front ++ [last]))) =
        .ok (.entry parent name slash) ∧
      d <+: parent ∧ now.node? (parent ++ [name]) = none ∧
      Puts now after (parent ++ [name]) (some .directory) := by
  have hbelow : LeadsBelow now d .kept
      (destination.join (List.intercalate ['/'] (front ++ [last]))) :=
    leadsBelow hd hlinks h hinside (exists_of_not_isSkipped front hlast) (by simp)
  obtain ⟨parent, name, slash, hplace, hnone, hputs⟩ :=
    makeDirectory_ok hmade
  exact ⟨parent, name, slash, hplace, (hbelow _ _ _ hplace).1, hnone, hputs⟩

theorem removeDirectory_below {front : List Text} {last : Text} (h : Within fs d now)
    (hinside : Inside (front ++ [last])) (hlast : isSkipped last = false)
    (hremoved : now.removeDirectory
      (destination.join (List.intercalate ['/'] (front ++ [last]))) = .ok after) :
    ∃ parent name slash,
      now.place .kept (destination.join (List.intercalate ['/'] (front ++ [last]))) =
        .ok (.entry parent name slash) ∧
      d <+: parent ∧ now.node? (parent ++ [name]) = some .directory ∧
      Puts now after (parent ++ [name]) none := by
  obtain ⟨parent, name, slash, hplace, hnode, -, hputs⟩ := removeDirectory_ok hremoved
  have hbelow : LeadsBelow now d .kept
      (destination.join (List.intercalate ['/'] (front ++ [last]))) :=
    leadsBelow hd hlinks h hinside (exists_of_not_isSkipped front hlast) (by simp)
  exact ⟨parent, name, slash, hplace, (hbelow _ _ _ hplace).1, hnode, hputs⟩

theorem within_makeDirectories {front : List Text} {last : Text} (h : Within fs d now)
    (hinside : Inside (front ++ [last])) (hlast : isSkipped last = false) :
    Within fs d (filesAfter (makeDirectories
      (destination.join (List.intercalate ['/'] (front ++ [last]))) now)) := by
  refine filesAfter_makeDirectories_join hd hlinks (fun _ hnow => hnow) hinside ?_
    List.prefix_rfl hlast h
  intro front' last' hfront hlast' now after hnow hmade
  obtain ⟨parent, name, slash, -, hparent, hnone, hputs⟩ :=
    makeDirectory_below hd hlinks hnow (hinside.front hfront) hlast' hmade
  exact hnow.of_puts hparent hputs (by simp) (by simp [hnone])

end Operations

section Installs

variable {relative : Path} {fileName : Text}

/-- The entry is staged: the path that it is staged by leads to a file below the destination. -/
def IsStaged (fs : FileSystem) (d : Location) (staged : Path) (now : FileSystem) : Prop :=
  Within fs d now ∧ ∃ parent name mode content, d <+: parent ∧
    LeadsToFile now staged parent name mode content

theorem inside_relative (henclosed : '\x00' ∉ relative ∧ relative.depth?.isSome = true)
    (hname : relative.fileName? = some fileName) :
    Inside (split (· = '/') relative) ∧ ∃ name ∈ split (· = '/') relative, name ≠ [] := by
  refine ⟨inside_split henclosed.1 henclosed.2, ?_⟩
  obtain ⟨cs, hcs⟩ := inner_of_fileName? hname
  by_contra hnone
  have hpieces : relative.pieces = [] := by
    rw [← split_filter, List.filter_eq_nil_iff]
    intro piece hpiece hne
    exact hnone ⟨piece, hpiece, by simpa using hne⟩
  simp [innerOf, hpieces] at hcs

theorem inside_fileName (hnul : '\x00' ∉ relative) (hname : relative.fileName? = some fileName) :
    Inside [fileName] ∧ ∃ name ∈ [fileName], name ≠ [] := by
  have hpiece := isPiece_of_fileName? hname
  refine ⟨⟨?_, ?_, ?_⟩, fileName, by simp, hpiece.nonempty⟩
  · simpa using hpiece.slash
  · simpa using nul_not_mem_fileName hnul hname
  · simp [hpiece.nonempty, hpiece.stepOfPiece_eq, StaysBelow]

variable (hd : LeadsTo fs destination d)
  (hlinks : ∀ m target, fs.node? (d ++ m) ≠ some (.link target))
  (henclosed : '\x00' ∉ relative ∧ relative.depth?.isSome = true)
  (hname : relative.fileName? = some fileName)

include hd hlinks henclosed hname

theorem leadsBelow_staged {last : LastName} (h : Within fs d now) (hlast : last ≠ .followed) :
    LeadsBelow now d last (destination.join relative) := by
  obtain ⟨hinside, hne⟩ := inside_relative henclosed hname
  have hbelow := leadsBelow hd hlinks h hinside hne hlast
  rwa [intercalate_split] at hbelow

/-- A staged file lies where its path leads itself. -/
theorem kept_of_leadsToFile {parent : Location} {name : Text} {mode : Nat} {content : Bytes}
    (h : Within fs d now)
    (hfile : LeadsToFile now (destination.join relative) parent name mode content) :
    now.place .kept (destination.join relative) = .ok (.entry parent name false) := by
  apply kept_of_made hfile.place
  intro parent' name' slash target hplace
  have hbelow : LeadsBelow now d .kept (destination.join relative) :=
    leadsBelow_staged hd hlinks henclosed hname h (by simp)
  obtain ⟨m, rfl⟩ := (hbelow _ _ _ hplace).1
  rw [List.append_assoc]
  exact h.links _ target

theorem ends_makeDirectories {directory : Path}
    (h : (Plan.of relative fileName destination).stagingDirectory? = some directory) :
    Ends (Within fs d) (FileChange.makeDirectories directory).perform (Within fs d)
      (Contained fs d) := by
  obtain ⟨front, last, hfront, hlast, rfl⟩ :=
    exists_of_stagingDirectory? (path_of_leadsTo hd).1 hname h
  have hinside := (inside_split henclosed.1 henclosed.2).front hfront
  refine ends_of_filesAfter ?_ fun now h => h.toContained
  intro now hnow
  exact within_makeDirectories hd hlinks hnow hinside hlast

theorem ends_overwrite (content : Bytes) :
    Ends (Within fs d) (FileChange.overwrite (destination.join relative) content).perform
      (IsStaged fs d (destination.join relative)) (Contained fs d) := by
  refine ends_perform ?_ fun now h => h.toContained
  intro now after hnow hresult
  have hbelow : LeadsBelow now d .made (destination.join relative) :=
    leadsBelow_staged hd hlinks henclosed hname hnow (by simp)
  obtain ⟨parent, name, hplace, hold, mode, hputs, hfile⟩ :=
    leadsToFile_overwrite hresult
  have hparent := (hbelow _ _ _ hplace).1
  exact ⟨hnow.of_puts hparent hputs (by simp) (hold .directory (Or.inl rfl)), parent, name, mode,
    content, hparent, hfile⟩

omit hd hlinks henclosed hname in
theorem ends_setMode (mode : Nat) :
    Ends (IsStaged fs d (destination.join relative))
      (FileChange.setMode (destination.join relative) mode).perform
      (IsStaged fs d (destination.join relative)) (Contained fs d) := by
  refine ends_perform ?_ fun now h => h.1.toContained
  rintro now after ⟨hwithin, parent, name, old, content, hparent, hfile⟩ hresult
  obtain ⟨hputs, hafter⟩ := hfile.setMode_ok hresult
  exact ⟨hwithin.of_puts hparent hputs (by simp) (by simp [hfile.file]), parent, name, _, content,
    hparent, hafter⟩

theorem rename_below {parent : Location} {name : Text} {mode : Nat} {content : Bytes}
    (h : Within fs d now)
    (hfile : LeadsToFile now (destination.join relative) parent name mode content)
    (hmoved : now.rename (destination.join relative) (destination.join fileName) = .ok after) :
    ∃ newParent newName,
      now.place .kept (destination.join (List.intercalate ['/'] [fileName])) =
        .ok (.entry newParent newName false) ∧
      d <+: newParent ∧ now.node? (newParent ++ [newName]) ≠ some .directory ∧
      Moves now after (parent ++ [name]) (newParent ++ [newName]) (.file mode content) := by
  have hkept := kept_of_leadsToFile hd hlinks henclosed hname h hfile
  obtain ⟨hinside, hne⟩ := inside_fileName henclosed.1 hname
  have htarget : LeadsBelow now d .kept (destination.join (List.intercalate ['/'] [fileName])) :=
    leadsBelow hd hlinks h hinside hne (by simp)
  rw [List.intercalate_singleton] at htarget ⊢
  obtain ⟨newParent, newName, hplace, hfree, hmoves⟩ :=
    rename_ok hkept hfile.file hmoved
  exact ⟨newParent, newName, hplace, (htarget _ _ _ hplace).1, hfree, hmoves⟩

theorem ends_rename :
    Ends (IsStaged fs d (destination.join relative))
      (FileChange.rename (destination.join relative) (destination.join fileName)).perform
      (Within fs d) (Contained fs d) := by
  refine ends_perform ?_ fun now h => h.1.toContained
  rintro now after ⟨hwithin, parent, name, mode, content, hparent, hfile⟩ hresult
  obtain ⟨newParent, newName, -, hnew, hfree, hmoves⟩ :=
    rename_below hd hlinks henclosed hname hwithin hfile hresult
  exact hwithin.of_moves hparent hnew hmoves hfile.file hfree

theorem ends_removeDirectory {directory : Path}
    (h : (Plan.of relative fileName destination).stagingDirectory? = some directory) :
    Ends (Within fs d) (FileChange.removeDirectory directory).perform (Contained fs d)
      (Contained fs d) := by
  obtain ⟨front, last, hfront, hlast, rfl⟩ :=
    exists_of_stagingDirectory? (path_of_leadsTo hd).1 hname h
  have hinside := (inside_split henclosed.1 henclosed.2).front hfront
  refine ends_perform ?_ fun now h => h.toContained
  intro now after hnow hresult
  obtain ⟨parent, name, slash, -, hparent, -, hputs⟩ :=
    removeDirectory_below hd hlinks hnow hinside hlast hresult
  exact hnow.toContained.of_puts hparent hputs

/-- All steps of an installation stay below the destination, however it ends. -/
theorem ends_steps (mode? : Option Nat) (payload : Archive.Payload) :
    Ends (Within fs d) (performAll ((Plan.of relative fileName destination).steps mode? payload))
      (Contained fs d) (Contained fs d) := by
  have hprepared : Ends (Within fs d)
      (performAll ((Plan.of relative fileName destination).stagingDirectory?.toList.map
        fun directory => .change (.makeDirectories directory))) (Within fs d) (Contained fs d) :=
    ends_toList fun directory hdirectory =>
      (ends_makeDirectories hd hlinks henclosed hname hdirectory).change
  have hmode : Ends (IsStaged fs d (destination.join relative))
      (performAll (mode?.toList.map fun mode =>
        .change (.setMode (destination.join relative) mode)))
      (IsStaged fs d (destination.join relative)) (Contained fs d) :=
    ends_toList fun mode _ => (ends_setMode mode).change
  refine ends_plan hprepared (ends_overwrite hd hlinks henclosed hname payload.bytes)
    (fun now h => h.1.toContained) hmode (fun _ now h => h.1)
    (fun _ => ends_rename hd hlinks henclosed hname) (fun _ now h => h.toContained) ?_
  intro directory hdirectory
  exact ends_removeDirectory hd hlinks henclosed hname hdirectory

end Installs

section Containment

variable [Archive.Decoders] {name : Text}

/-- A name that cannot stand for a file below a directory. -/
inductive Refused (name : Text) : Prop where
  | nul (h : '\x00' ∈ name)
  | absolute (h : isAbsolute name = true)
  | climbs (h : Climbs name)
  | nameless (h : ∀ fileName, (components name).getLast? ≠ some (.name fileName))

theorem select_of_refused (archive : Bytes) (h : Refused name) :
    ∃ error, select archive name = .error error := by
  cases hselect : select archive name with
  | error error => exact ⟨error, rfl⟩
  | ok selected =>
      obtain ⟨henclosed, hfileName, -⟩ := select_eq_ok hselect
      obtain ⟨hrelative, hnul, hdepth⟩ := enclosed?_eq_some henclosed
      rw [hrelative] at hfileName
      cases h with
      | nul h => exact absurd h hnul
      | absolute h => simp [isAbsolute_of_depth? hdepth] at h
      | climbs h => simp [depth?_of_climbs h] at hdepth
      | nameless h => exact absurd (getLast?_of_fileName? hfileName) (h _)

/-- The path of a file right in a directory. -/
structure InDirectory (directory : Path) (name : Text) (path : Path) : Prop where
  path_eq : path = directory.join name
  components_eq : path.components = directory.components ++ [.name name]

theorem contained_action (archive : Bytes) (name : Text) (hd : LeadsTo fs destination d)
    (hlinks : ∀ m target, fs.node? (d ++ m) ≠ some (.link target)) :
    Contained fs d (filesAfter (action archive name destination fs)) ∧
      ∀ path after, action archive name destination fs = .ok path after →
        ∃ fileName, (components name).getLast? = some (.name fileName) ∧
          InDirectory (destination.absolute fs.workingPath) fileName path := by
  have hself := within_self hlinks
  cases hselect : select archive name with
  | error error =>
      rw [action_of_not_select hselect]
      exact ⟨hself.toContained, by simp⟩
  | ok selected =>
      obtain ⟨henclosed, hfileName, -⟩ := select_eq_ok hselect
      obtain ⟨hrelative, hnul, hdepth⟩ := enclosed?_eq_some henclosed
      rw [hrelative] at hfileName
      have hends := ends_steps hd hlinks ⟨hnul, hdepth⟩ hfileName selected.mode? selected.payload
        fs hself
      rw [action_of_select hselect, hrelative]
      simp only
      cases hrun : performAll ((Plan.of name selected.fileName destination).steps selected.mode?
          selected.payload) fs with
      | error error after =>
          rw [hrun] at hends
          exact ⟨hends, by simp⟩
      | ok value after =>
          rw [hrun] at hends
          simp only
          cases htold : after.absolute (Plan.of name selected.fileName destination).final with
          | error failure => exact ⟨hends, by simp⟩
          | ok told =>
              refine ⟨hends, ?_⟩
              intro path after' hpath
              obtain ⟨rfl, rfl⟩ := EStateM.Result.ok.inj hpath
              have hpiece := isPiece_of_fileName? hfileName
              have hworking : after.workingPath = fs.workingPath := by
                rw [workingPath, workingPath, hends.workingDirectory]
              have habsolute : told =
                  (destination.absolute fs.workingPath).join selected.fileName := by
                rw [← (of_absolute_eq_ok htold).2, hworking]
                exact absolute_join destination hpiece _
              exact ⟨_, getLast?_of_fileName? hfileName, habsolute,
                habsolute ▸ components_join_name _ hpiece⟩

/-- An installation touches nothing but what lies below its destination, and nothing at all for a
name that does not stand for a file there; and if it succeeds, it returns the path of a file right
in the destination, with the last component of the entry's name. -/
theorem action_contained (archive : Bytes) (name : Text) (hd : LeadsTo fs destination d)
    (hlinks : ∀ m target, fs.node? (d ++ m) ≠ some (.link target)) :
    (∀ l, ¬(d <+: l ∧ l ≠ d) →
      (filesAfter (action archive name destination fs)).node? l = fs.node? l) ∧
    (filesAfter (action archive name destination fs)).node? d = some .directory ∧
    (Refused name → filesAfter (action archive name destination fs) = fs) ∧
    ∀ path after, action archive name destination fs = .ok path after →
      ∃ fileName, (components name).getLast? = some (.name fileName) ∧
        InDirectory (destination.absolute fs.workingPath) fileName path := by
  obtain ⟨hcontained, hpath⟩ := contained_action archive name hd hlinks
  refine ⟨hcontained.outside, ?_, ?_, hpath⟩
  · rw [hcontained.outside d (by simp), hd.node]
  · intro hrefused
    obtain ⟨error, hselect⟩ := select_of_refused archive hrefused
    rw [action_of_not_select hselect]
    rfl

end Containment

section Samples

attribute [local instance] Archive.Decoders.absent

/-- The name of a directory. -/
def tools : Text := "tools".toList

/-- A directory beside a link. -/
def neighbours : FileSystem :=
  ⟨[("beside".toList, .link "elsewhere".toList), (tools, .directory [])], []⟩

theorem no_links_in_neighbours (m : Location) (target : Text) :
    neighbours.node? ([tools] ++ m) ≠ some (.link target) := by
  have hfound : neighbours.tree.find? [tools] = some (.directory []) := rfl
  rw [FileSystem.node?, node?_append, hfound, Option.bind_some]
  cases m with
  | nil => simp [node?_nil, Tree.node]
  | cons name rest => simp [node?_cons, Tree.entries, Tree.child?]

theorem action_contained_neighbours :
    (filesAfter (action (sampleArchive executable) Platform.linux.entryName tools
        neighbours)).node? ["beside".toList] = some (.link "elsewhere".toList) ∧
      filesAfter (action (sampleArchive executable) "a/../../b".toList tools neighbours) =
        neighbours := by
  have hd : LeadsTo neighbours tools [tools] := ⟨by decide +kernel, by decide +kernel⟩
  have hbeside : neighbours.node? ["beside".toList] = some (.link "elsewhere".toList) := by
    decide +kernel
  obtain ⟨houtside, -, -, -⟩ :=
    action_contained (sampleArchive executable) Platform.linux.entryName hd no_links_in_neighbours
  obtain ⟨-, -, hrefused, -⟩ :=
    action_contained (sampleArchive executable) "a/../../b".toList hd no_links_in_neighbours
  refine ⟨?_, ?_⟩
  · rw [houtside _ (by decide), hbeside]
  · exact hrefused (.climbs ⟨[.name ['a'], .parent, .parent], by decide, by decide⟩)

end Samples

end ShaderTools.Proofs.ContainedInstalls
