import ShaderTools.Proofs.ContainedInstalls
import ShaderTools.Proofs.UsableInstalls

/-!
What an installation that succeeds leaves below its destination. All directories that the name of
the entry leads through are made, but only the one that the entry was staged in is removed: the
others stay, so that the file is all that is new only if there is at most one.
-/

namespace ShaderTools.Proofs.StagingLeftovers

open ShaderTools.FileSystem
open ShaderTools.Install
open ShaderTools.Path
open ShaderTools.Proofs.TextPieces
open ShaderTools.Proofs.JoinedPaths
open ShaderTools.Proofs.PathWalks
open ShaderTools.Proofs.TreeUpdates
open ShaderTools.Proofs.EntryOperations
open ShaderTools.Proofs.InstallSteps
open ShaderTools.Proofs.InstallOutcomes
open ShaderTools.Proofs.InstalledFiles
open ShaderTools.Proofs.WalkEnds
open ShaderTools.Proofs.AbsolutePaths
open ShaderTools.Proofs.StagedPaths
open ShaderTools.Proofs.ContainedPaths
open ShaderTools.Proofs.OperationEffects
open ShaderTools.Proofs.StepRuns
open ShaderTools.Proofs.ContainedInstalls
open ShaderTools.Proofs.UsableInstalls

/-- Where a component of a path leads from a place. -/
def moved (l : Location) : Component → Location
  | .name text => l ++ [text]
  | .parent => l.dropLast
  | .root | .current => l

/-- Where components lead, seen from where they start. -/
def locate (cs : List Component) : Location := cs.foldl moved []

/-- The directory that an entry is staged in, seen from the destination. -/
def stagingOf (name : Text) : Location := locate (innerOf name).dropLast

/-- A directory below the destination that the name of an entry leads through. -/
def IsDirectoryOf (name : Text) (m : Location) : Prop :=
  m ≠ [] ∧ ∃ front, front <+: (innerOf name).dropLast ∧ m = locate front

theorem foldl_moved_names (l names : List Text) :
    (names.map Component.name).foldl moved l = l ++ names := by
  induction names generalizing l with
  | nil => simp
  | cons name rest ih => simp [moved, ih]

/-- A name without double dots leads through all beginnings of the directory it is staged in. -/
theorem directories_of_names {name : Text} {names : List Text}
    (h : (innerOf name).dropLast = names.map .name) :
    stagingOf name = names ∧ ∀ m, IsDirectoryOf name m ↔ m ≠ [] ∧ m <+: names := by
  have hlocate : ∀ ns : List Text, locate (ns.map .name) = ns := foldl_moved_names []
  refine ⟨by rw [stagingOf, h, hlocate], fun m => and_congr_right fun _ => ?_⟩
  rw [h]
  constructor
  · rintro ⟨front, hfront, rfl⟩
    obtain ⟨ns, hns, rfl⟩ := List.prefix_map_iff.mp hfront
    rwa [hlocate]
  · intro hm
    exact ⟨m.map .name, hm.map _, (hlocate m).symm⟩

variable {fs now after : FileSystem} {destination : Path} {d : Location}

section Walks

variable {last : LastName} {parent m l : Location} {name : Text} {slash : Bool}
  {cs : List Component}

/-- Components lead from one place, at or below another, to a third one, through directories. -/
structure Traces (fs : FileSystem) (d m : Location) (cs : List Component) (l : Location) :
    Prop where
  ends : l = d ++ cs.foldl moved m
  through : ∀ front, front <+: cs → front ≠ cs →
    fs.node? (d ++ front.foldl moved m) = some .directory

theorem Traces.cons {c : Component} (hm : fs.node? (d ++ m) = some .directory)
    (h : Traces fs d (moved m c) cs l) : Traces fs d m (c :: cs) l := by
  refine ⟨h.ends, ?_⟩
  intro front hfront hne
  rcases List.prefix_cons_iff.mp hfront with rfl | ⟨rest, rfl, hrest⟩
  · exact hm
  · exact h.through rest hrest fun hcs => hne (hcs ▸ rfl)

theorem traces_name (hm : fs.node? (d ++ m) = some .directory) (text : Text) :
    Traces fs d m [.name text] (d ++ m ++ [text]) :=
  Traces.cons hm ⟨List.append_assoc d m [text], fun _ hfront hne =>
    absurd (List.prefix_nil.mp hfront) hne⟩

/-- A walk below a place without links goes where its components lead. -/
theorem walkSteps_traces (hlinks : ∀ m target, fs.node? (d ++ m) ≠ some (.link target))
    {ends : Bool} {follow : Location → Route → Except Failure Place} {pieces : List Text}
    (hm : fs.node? (d ++ m) = some .directory)
    (hsteps : StaysBelow m.length (pieces.map Route.stepOfPiece))
    (h : walkSteps fs last ends follow (d ++ m) (pieces.map Route.stepOfPiece) =
      .ok (.entry parent name slash)) :
    Traces fs d m (pieces.filterMap componentOfPiece) (parent ++ [name]) := by
  induction pieces generalizing m with
  | nil => simp [walkSteps] at h
  | cons piece rest ih =>
      by_cases hdot : piece = ['.']
      · subst hdot
        exact ih hm hsteps h
      by_cases hdots : piece = ['.', '.']
      · subst hdots
        rcases List.eq_nil_or_concat' m with rfl | ⟨above, last, rfl⟩
        · exact hsteps.elim
        · have habove := node?_dropLast hm
          have hmoved : moved (above ++ [last]) .parent = above := List.dropLast_concat
          have hrest : StaysBelow above.length (rest.map Route.stepOfPiece) := by
            rw [List.length_append, List.length_singleton] at hsteps
            exact hsteps
          have hup : walkSteps fs _ ends follow (d ++ (above ++ [last])).dropLast
              (rest.map Route.stepOfPiece) = .ok (.entry parent name slash) := h
          rw [← List.append_assoc, List.dropLast_concat] at habove hup
          have htraces := ih habove hrest hup
          rw [← hmoved] at htraces
          exact htraces.cons hm
      · have hcomponent : componentOfPiece piece = some (.name piece) := by
          simp [componentOfPiece, hdot, hdots]
        have hstep : Route.stepOfPiece piece = .name piece := by
          simp [Route.stepOfPiece, hdot, hdots]
        rw [List.map_cons, hstep] at h hsteps
        rw [List.filterMap_cons_some hcomponent]
        cases atName_of_walkSteps h with
        | slashed hrest hlast hslash hplace =>
            obtain ⟨rfl, rfl, -⟩ : parent = d ++ m ∧ name = piece ∧ _ := by simpa using hplace
            rw [List.map_eq_nil_iff.mp hrest]
            exact traces_name hm name
        | ended hrest hopen hshort hlink hplace =>
            obtain ⟨rfl, rfl, -⟩ : parent = d ++ m ∧ name = piece ∧ _ := by simpa using hplace
            rw [List.map_eq_nil_iff.mp hrest]
            exact traces_name hm name
        | linked target hopen hshort hnode hlast hplace =>
            rw [List.append_assoc] at hnode
            exact absurd hnode (hlinks _ target)
        | down hrest hshort hnode hplace =>
            rw [List.append_assoc] at hnode hplace
            exact (ih hnode (by simpa [StaysBelow] using hsteps) hplace).cons hm

/-- A path that is joined to one that leads to a directory goes where its components lead from
there. -/
theorem place_traces (hd : LeadsTo fs destination d)
    (hlinks : ∀ m target, fs.node? (d ++ m) ≠ some (.link target)) (hlast : last ≠ .followed)
    {relative : Path} (hnul : '\x00' ∉ relative) (hpieces : relative.pieces ≠ [])
    (hstays : StaysBelow 0 (relative.pieces.map Route.stepOfPiece))
    (h : fs.place last (destination.join relative) = .ok (.entry parent name slash)) :
    Traces fs d [] (innerOf relative) (parent ++ [name]) := by
  obtain ⟨ends, follow, hwalk⟩ := exists_walk_join hd hlast hnul hpieces h
  rw [← List.append_nil d] at hwalk
  exact walkSteps_traces hlinks (by simpa using hd.node) hstays hwalk

end Walks

section Preparing

variable {name : Text}

/-- The directories of a name are being made, and no other node has changed. -/
structure DirectoriesOnly (fs : FileSystem) (d : Location) (name : Text) (now : FileSystem) : Prop
    extends Within fs d now where
  nodes : ∀ l, now.node? l = fs.node? l ∨
    (now.node? l = some .directory ∧ ∃ m, l = d ++ m ∧ IsDirectoryOf name m)

theorem directoriesOnly_self (name : Text)
    (hlinks : ∀ m target, fs.node? (d ++ m) ≠ some (.link target)) : DirectoriesOnly fs d name fs :=
  ⟨within_self hlinks, fun _ => Or.inl rfl⟩

theorem inner_intercalate {pieces : List Text} (h : ∀ piece ∈ pieces, '/' ∉ piece) :
    innerOf (List.intercalate ['/'] pieces) = pieces.filterMap componentOf? := by
  rw [inner_eq_filterMap_split, filterMap_split_intercalate h]

theorem inner_of_stagingDirectory? {relative q : Path} {fileName : Text} (hp : destination ≠ [])
    (hname : relative.fileName? = some fileName)
    (h : (Plan.of relative fileName destination).stagingDirectory? = some (destination.join q)) :
    innerOf q = (innerOf relative).dropLast := by
  obtain ⟨hparent, -⟩ : (destination.join relative).parent? = some (destination.join q) ∧
      (destination.join q).sameAs destination = false := by
    simpa [Plan.of, Option.filter_eq_some_iff] using h
  obtain ⟨cs, hinner⟩ := inner_of_fileName? hname
  have hcomponents := components_parent? hparent
  rw [components_join hp, components_join hp, ← innerOf, ← innerOf,
    List.dropLast_append_of_ne_nil (by simp [hinner])] at hcomponents
  exact List.append_cancel_left hcomponents

variable (hd : LeadsTo fs destination d)
  (hlinks : ∀ m target, fs.node? (d ++ m) ≠ some (.link target))

include hd hlinks

theorem traces_of_place {last : LastName} {pieces : List Text} {parent : Location} {last' : Text}
    {slash : Bool} (h : Within fs d now) (hinside : Inside pieces)
    (hne : ∃ piece ∈ pieces, piece ≠ []) (hlast : last ≠ .followed)
    (hplace : now.place last (destination.join (List.intercalate ['/'] pieces)) =
      .ok (.entry parent last' slash)) :
    Traces now d [] (pieces.filterMap componentOf?) (parent ++ [last']) := by
  rw [← inner_intercalate hinside.slash]
  exact place_traces (h.leads hd hlinks) h.links hlast hinside.nul_not_mem
    (hinside.pieces_ne_nil hne) hinside.staysBelow hplace

theorem DirectoriesOnly.makeDirectory {front : List Text} {last : Text}
    (h : DirectoriesOnly fs d name now) (hinside : Inside (front ++ [last]))
    (hlast : isSkipped last = false)
    (hcs : (front ++ [last]).filterMap componentOf? <+: (innerOf name).dropLast)
    (hmade : now.makeDirectory (destination.join (List.intercalate ['/'] (front ++ [last]))) =
      .ok after) : DirectoriesOnly fs d name after := by
  obtain ⟨parent, last', slash, hplace, hparent, hnone, hputs⟩ :=
    makeDirectory_below hd hlinks h.toWithin hinside hlast hmade
  have htraces := traces_of_place hd hlinks h.toWithin hinside
    (exists_of_not_isSkipped front hlast) (by simp) hplace
  refine ⟨h.toWithin.of_puts hparent hputs (by simp) (by simp [hnone]), fun l => ?_⟩
  by_cases hl : l = parent ++ [last']
  · subst hl
    refine Or.inr ⟨hputs.node?_self, _, htraces.ends, ?_, _, hcs, rfl⟩
    intro hnil
    have hends := htraces.ends
    rw [hnil, List.append_nil] at hends
    exact (below_concat hparent last').2 hends
  · rw [hputs.node?_of_ne hl]
    exact h.nodes l

/-- Before an entry is staged, no other nodes have changed than the directories of its name. -/
theorem directoriesOnly_prepared {fileName : Text}
    (henclosed : '\x00' ∉ name ∧ (depth? name).isSome = true)
    (hname : fileName? name = some fileName) :
    DirectoriesOnly fs d name (prepared (Plan.of name fileName destination) fs) := by
  unfold prepared
  split
  · exact directoriesOnly_self name hlinks
  · next directory hdirectory =>
      have hp := (path_of_leadsTo hd).1
      obtain ⟨front, last, hfront, hlast, rfl⟩ := exists_of_stagingDirectory? hp hname hdirectory
      have hinside := (inside_split henclosed.1 henclosed.2).front hfront
      have hcs : (front ++ [last]).filterMap componentOf? = (innerOf name).dropLast := by
        rw [← inner_intercalate hinside.slash]
        exact inner_of_stagingDirectory? hp hname hdirectory
      refine filesAfter_makeDirectories_join hd hlinks (fun _ h => h.toWithin) hinside ?_
        List.prefix_rfl hlast (directoriesOnly_self name hlinks)
      intro front' last' hfront' hlast' now after hnow hmade
      exact hnow.makeDirectory hd hlinks (hinside.front hfront') hlast'
        (hcs ▸ hfront'.filterMap componentOf?) hmade

end Preparing

section Steps

variable {before : FileSystem} {name fileName : Text} {mode : Nat} {content : Bytes}

/-- The entry lies in the directory that it is staged in, and there are directories on the way. -/
structure Staged (before : FileSystem) (d : Location) (destination : Path) (name fileName : Text)
    (mode : Nat) (content : Bytes) (now : FileSystem) : Prop where
  written : Written before (destination.join name) (d ++ stagingOf name) fileName mode content now
  through : ∀ m, IsDirectoryOf name m → before.node? (d ++ m) = some .directory

/-- The file lies in the destination, and nothing else has changed since the directories were
made. -/
structure Placed (fs before : FileSystem) (d : Location) (name fileName : Text) (mode : Nat)
    (content : Bytes) (now : FileSystem) : Prop where
  within : Within fs d now
  through : ∀ m, IsDirectoryOf name m → before.node? (d ++ m) = some .directory
  free : before.node? (d ++ [fileName]) ≠ some .directory
  nodes : ∀ l, now.node? l =
    if l = d ++ [fileName] then some (.file mode content) else before.node? l

/-- What an installation leaves: the file, and the directories of the entry's name but for the one
that it was staged in. -/
structure Leaves (fs : FileSystem) (d : Location) (name fileName : Text) (mode : Nat)
    (content : Bytes) (after : FileSystem) : Prop where
  file : after.node? (d ++ [fileName]) = some (.file mode content)
  directories : ∀ m, IsDirectoryOf name m → m ≠ stagingOf name →
    after.node? (d ++ m) = some .directory
  elsewhere : ∀ l, l ≠ d ++ [fileName] →
    (∀ m, l = d ++ m → IsDirectoryOf name m → m = stagingOf name) → after.node? l = fs.node? l

theorem Staged.within (hbefore : DirectoriesOnly fs d name before)
    (h : Staged before d destination name fileName mode content now) : Within fs d now :=
  hbefore.toWithin.of_puts (List.prefix_append d _) h.written.puts (by simp)
    (h.written.new .directory (Or.inl rfl))

theorem ends_setMode (mode? : Option Nat) (old? : Option Node) :
    Ends (Staged before d destination name fileName (writtenMode old?) content)
      (performAll (mode?.toList.map fun mode => .change (.setMode (destination.join name) mode)))
      (Staged before d destination name fileName (fileMode mode? old?) content)
      (fun _ => True) := by
  cases mode? with
  | none => exact ends_nil fun _ h => h
  | some given =>
      refine ends_singleton (Ends.change (ends_perform ?_ fun _ _ => trivial))
      exact fun now after h hresult => ⟨h.written.setMode hresult, h.through⟩

theorem isDirectoryOf_stagingOf (h : stagingOf name ≠ []) : IsDirectoryOf name (stagingOf name) :=
  ⟨h, _, List.prefix_rfl, rfl⟩

/-- Where the entry was staged nothing lay, unless it is the place of the file itself. -/
theorem Staged.old (hbefore : DirectoriesOnly fs d name before)
    (hnew : ∀ m, IsDirectoryOf name m → fs.node? (d ++ m) = none)
    (h : Staged before d destination name fileName mode content now) :
    stagingOf name = [] ∨ before.node? (d ++ stagingOf name ++ [fileName]) = none := by
  by_cases hstaging : stagingOf name = []
  · exact Or.inl hstaging
  · right
    have hnone : fs.node? (d ++ stagingOf name ++ [fileName]) = none :=
      node?_below_none (hnew _ (isDirectoryOf_stagingOf hstaging)) (List.prefix_append _ _)
    rcases hbefore.nodes (d ++ stagingOf name ++ [fileName]) with hsame | ⟨hdirectory, -⟩
    · rw [hsame, hnone]
    · exact absurd hdirectory (h.written.new .directory (Or.inl rfl))

/-- Where no directory is made for staging, there is none that the entry's name leads through. -/
theorem leaves_of_none (hnew : ∀ m, IsDirectoryOf name m → fs.node? (d ++ m) = none)
    (h : Placed fs fs d name fileName mode content after) :
    Leaves fs d name fileName mode content after := by
  refine ⟨by rw [h.nodes, if_pos rfl], ?_, ?_⟩
  · intro m hm
    have hdirectory := h.through m hm
    simp [hnew m hm] at hdirectory
  · intro l hl _
    rw [h.nodes, if_neg hl]

variable (hd : LeadsTo fs destination d)
  (hlinks : ∀ m target, fs.node? (d ++ m) ≠ some (.link target))
  (hnew : ∀ m, IsDirectoryOf name m → fs.node? (d ++ m) = none)
  (henclosed : '\x00' ∉ name ∧ (depth? name).isSome = true)
  (hname : fileName? name = some fileName) (hbefore : DirectoriesOnly fs d name before)

include hd hlinks henclosed hname hbefore

theorem staged_overwrite
    (h : before.overwrite (destination.join name) content = .ok after) :
    Staged before d destination name fileName
      (writtenMode (fs.node? (d ++ stagingOf name ++ [fileName]))) content after := by
  have hbelow : LeadsBelow before d .made (destination.join name) :=
    leadsBelow_staged hd hlinks henclosed hname hbefore.toWithin (by simp)
  obtain ⟨parent, last, hplace, hmay, hputs⟩ := overwrite_ok h
  obtain ⟨hinside, hne⟩ := inside_relative henclosed hname
  have hsplit : before.place .made
      (destination.join (List.intercalate ['/'] (Text.split (· = '/') name))) =
        .ok (.entry parent last false) := by rwa [intercalate_split]
  have htraces := traces_of_place hd hlinks hbefore.toWithin hinside hne (by simp) hsplit
  rw [← inner_eq_filterMap_split] at htraces
  obtain ⟨cs, hcs⟩ := inner_of_fileName? hname
  have hends : parent ++ [last] = d ++ stagingOf name ++ [fileName] := by
    rw [htraces.ends, stagingOf, hcs, List.dropLast_concat, List.foldl_append, List.append_assoc]
    rfl
  obtain ⟨rfl, hlast⟩ := List.append_inj' hends rfl
  obtain rfl := List.singleton_inj.mp hlast
  have hsame : before.node? (d ++ stagingOf name ++ [last]) =
      fs.node? (d ++ stagingOf name ++ [last]) := by
    rcases hbefore.nodes (d ++ stagingOf name ++ [last]) with hsame | ⟨hdirectory, -⟩
    · exact hsame
    · rw [hdirectory] at hmay
      cases hmay
  refine ⟨⟨hplace, not_leadsOn_of_mayBeWritten hmay, hsame ▸ hputs⟩, ?_⟩
  rintro m ⟨-, front, hfront, rfl⟩
  rw [hcs, List.dropLast_concat] at hfront
  refine htraces.through front (hcs ▸ hfront.trans (List.prefix_append _ _)) ?_
  rintro rfl
  have hlength := hfront.length_le
  rw [hcs, List.length_append, List.length_singleton] at hlength
  omega

omit hbefore in
theorem place_fileName {parent : Location} {last : Text} {slash : Bool} (h : Within fs d now)
    (hplace : now.place .kept (destination.join (List.intercalate ['/'] [fileName])) =
      .ok (.entry parent last slash)) : parent ++ [last] = d ++ [fileName] := by
  obtain ⟨hinside, hne⟩ := inside_fileName henclosed.1 hname
  have hpiece := isPiece_of_fileName? hname
  have htraces := traces_of_place hd hlinks h hinside hne (by simp) hplace
  simpa [componentOf?, hpiece.isSkipped_eq, hpiece.componentOfPiece_eq, moved] using htraces.ends

include hnew in
theorem placed_rename (h : Staged before d destination name fileName mode content now)
    (hresult : now.rename (destination.join name) (destination.join fileName) = .ok after) :
    Placed fs before d name fileName mode content after := by
  have hwithin := h.within hbefore
  have hfile := h.written.leadsToFile
  obtain ⟨newParent, newName, hplace, hparent, hfree, hmoves⟩ :=
    rename_below hd hlinks henclosed hname hwithin hfile hresult
  have htarget := place_fileName hd hlinks henclosed hname hwithin hplace
  have hafter := hwithin.of_moves (List.prefix_append d _) hparent hmoves hfile.file hfree
  rw [htarget] at hmoves hfree
  refine ⟨hafter, h.through, ?_, ?_⟩
  · intro hdirectory
    exact hfree (h.written.puts.keeps h.written.new _ .directory (Or.inl rfl) hdirectory)
  · intro l
    rw [hmoves.nodes]
    by_cases hl : l = d ++ [fileName]
    · rw [if_pos hl, if_pos hl]
    rw [if_neg hl, if_neg hl]
    split
    · next hold =>
        rcases h.old hbefore hnew with hstaging | hnone
        · simp [hold, hstaging] at hl
        · rw [hold, hnone]
    · next hold => exact h.written.puts.node?_of_ne hold

omit hlinks henclosed in
theorem placed_of_sameAs
    (hsame : (destination.join name).sameAs (destination.join fileName) = true)
    (h : Staged before d destination name fileName mode content now) :
    Placed fs before d name fileName mode content now := by
  have hp := (path_of_leadsTo hd).1
  have hwithin := h.within hbefore
  have hinner : innerOf name = [.name fileName] := by
    rw [sameAs, decide_eq_true_eq, components_join hp,
      components_join_name destination (isPiece_of_fileName? hname)] at hsame
    exact List.append_cancel_left hsame
  have hstaging : stagingOf name = [] := by
    rw [stagingOf, hinner]
    rfl
  obtain ⟨hwritten, hthrough⟩ := h
  rw [hstaging, List.append_nil] at hwritten
  exact ⟨hwithin, hthrough, hwritten.new .directory (Or.inl rfl), hwritten.puts.nodes⟩

include hnew in
theorem leaves_removeDirectory {directory : Path}
    (hdirectory : (Plan.of name fileName destination).stagingDirectory? = some directory)
    (h : Placed fs before d name fileName mode content now)
    (hresult : now.removeDirectory directory = .ok after) :
    Leaves fs d name fileName mode content after := by
  have hp := (path_of_leadsTo hd).1
  obtain ⟨front, last, hfront, hlast, rfl⟩ := exists_of_stagingDirectory? hp hname hdirectory
  have hinside := (inside_split henclosed.1 henclosed.2).front hfront
  obtain ⟨parent, last', slash, hplace, hparent, hnode, hputs⟩ :=
    removeDirectory_below hd hlinks h.within hinside hlast hresult
  have hends : parent ++ [last'] = d ++ stagingOf name := by
    have htraces := traces_of_place hd hlinks h.within hinside
      (exists_of_not_isSkipped front hlast) (by simp) hplace
    rw [htraces.ends, ← inner_intercalate hinside.slash,
      inner_of_stagingDirectory? hp hname hdirectory]
    rfl
  have hstaging : stagingOf name ≠ [] := by
    intro hnil
    rw [hnil, List.append_nil] at hends
    exact (below_concat hparent last').2 hends
  rw [hends] at hnode hputs
  refine ⟨?_, ?_, ?_⟩
  · rw [hputs.node?_of_ne, h.nodes, if_pos rfl]
    intro hsame
    simp [← hsame, h.nodes] at hnode
  · intro m hm hne
    rw [hputs.node?_of_ne fun hsame => hne (List.append_cancel_left hsame), h.nodes, if_neg,
      h.through m hm]
    intro hsame
    exact h.free (hsame ▸ h.through m hm)
  · intro l hl hother
    by_cases hremoved : l = d ++ stagingOf name
    · rw [hremoved, hputs.node?_self, hnew _ (isDirectoryOf_stagingOf hstaging)]
    · rw [hputs.node?_of_ne hremoved, h.nodes, if_neg hl]
      rcases hbefore.nodes l with hsame | ⟨-, m, rfl, hm⟩
      · exact hsame
      · exact absurd (by rw [hother m rfl hm]) hremoved

end Steps

section Installs

variable {name fileName : Text}

/-- A run to the end leaves the file, and all but the innermost of the directories made for it. -/
theorem ends_leaves (hd : LeadsTo fs destination d)
    (hlinks : ∀ m target, fs.node? (d ++ m) ≠ some (.link target))
    (hnew : ∀ m, IsDirectoryOf name m → fs.node? (d ++ m) = none)
    (henclosed : '\x00' ∉ name ∧ (depth? name).isSome = true)
    (hname : fileName? name = some fileName) (mode? : Option Nat) (payload : Archive.Payload) :
    Ends (· = fs) (performAll ((Plan.of name fileName destination).steps mode? payload))
      (Leaves fs d name fileName
        (fileMode mode? (fs.node? (d ++ stagingOf name ++ [fileName]))) payload.bytes)
      (fun _ => True) := by
  have hbefore := directoriesOnly_prepared hd hlinks henclosed hname
  have hnone : (Plan.of name fileName destination).stagingDirectory? = none →
      prepared (Plan.of name fileName destination) fs = fs := by
    intro hnone
    rw [prepared, hnone]
  obtain ⟨before, hprepared⟩ : ∃ before,
      prepared (Plan.of name fileName destination) fs = before := ⟨_, rfl⟩
  obtain ⟨old?, hold⟩ : ∃ old?,
      fs.node? (d ++ stagingOf name ++ [fileName]) = old? := ⟨_, rfl⟩
  rw [hprepared] at hbefore hnone
  rw [hold]
  have hmade : Ends (· = fs)
      (performAll ((Plan.of name fileName destination).stagingDirectory?.toList.map
        fun directory => .change (.makeDirectories directory)))
      (· = before) (fun _ => True) := by
    rw [← hprepared]
    exact ends_prepared _
  have hwritten : Ends (· = before)
      (FileChange.overwrite (destination.join name) payload.bytes).perform
      (Staged before d destination name fileName (writtenMode old?) payload.bytes)
      (fun _ => True) := by
    refine ends_perform ?_ fun _ _ => trivial
    rintro _ after rfl hresult
    rw [← hold]
    exact staged_overwrite hd hlinks henclosed hname hbefore hresult
  have hmoved : Ends
      (Staged before d destination name fileName (fileMode mode? old?) payload.bytes)
      (FileChange.rename (destination.join name) (destination.join fileName)).perform
      (Placed fs before d name fileName (fileMode mode? old?) payload.bytes)
      (fun _ => True) :=
    ends_perform (fun now after h hresult =>
      placed_rename hd hlinks hnew henclosed hname hbefore h hresult) fun _ _ => trivial
  refine ends_plan hmade hwritten (fun _ _ => trivial) (ends_setMode mode? old?)
    (fun hsame _ => placed_of_sameAs hd hname hbefore hsame) (fun _ => hmoved) ?_
    fun directory hdirectory => ends_perform ?_ fun _ _ => trivial
  · intro hdirectory now h
    obtain rfl := hnone hdirectory
    exact leaves_of_none hnew h
  · intro now after h hresult
    exact leaves_removeDirectory hd hlinks hnew henclosed hname hbefore hdirectory h hresult

theorem Leaves.alone_iff {mode : Nat} {content : Bytes}
    (hnew : ∀ m, IsDirectoryOf name m → fs.node? (d ++ m) = none)
    (h : Leaves fs d name fileName mode content after) :
    (∀ l, l ≠ d ++ [fileName] → after.node? l = fs.node? l) ↔
      ∀ m, IsDirectoryOf name m → m = stagingOf name := by
  constructor
  · intro halone m hm
    by_contra hne
    have hdirectory := h.directories m hm hne
    rw [halone, hnew m hm] at hdirectory
    · cases hdirectory
    · intro hsame
      rw [hsame, h.file] at hdirectory
      cases hdirectory
  · intro hall l hl
    exact h.elsewhere l hl fun m _ hm => hall m hm

/-- An installation that succeeds, with none of the entry's directories there before, leaves the
file and all of these directories but the one that the entry was staged in. The file is all that is
new if and only if there is no other directory. -/
theorem action_leaves [Archive.Decoders] {archive : Bytes} {path : Path}
    (hd : LeadsTo fs destination d)
    (hlinks : ∀ m target, fs.node? (d ++ m) ≠ some (.link target))
    (hnew : ∀ m, IsDirectoryOf name m → fs.node? (d ++ m) = none)
    (h : action archive name destination fs = .ok path after) :
    ∃ entry content fileName, delivered? archive name = some (entry, content) ∧
      (components name).getLast? = some (.name fileName) ∧
      Leaves fs d name fileName
        (fileMode entry.mode? (fs.node? (d ++ stagingOf name ++ [fileName]))) content after ∧
      ((∀ l, l ≠ d ++ [fileName] → after.node? l = fs.node? l) ↔
        ∀ m, IsDirectoryOf name m → m = stagingOf name) := by
  obtain ⟨entry, payload, fileName, henclosed, hname, hdelivered, hrun, -⟩ :=
    exists_run_of_action h
  have hleaves := (ends_leaves hd hlinks hnew henclosed hname entry.mode? payload).ended rfl hrun
  exact ⟨entry, payload.bytes, fileName, hdelivered, getLast?_of_fileName? hname, hleaves,
    hleaves.alone_iff hnew⟩

end Installs

section Samples

attribute [local instance] Archive.Decoders.absent

/-- The name of an entry that lies two directories deep. -/
def nestedName : Text := "a/b/t".toList

/-- An archive of one entry, with five bytes that are not compressed. -/
def nestedArchive : Bytes :=
  [0x50, 0x4b, 0x03, 0x04, 0x14, 0, 0, 0, 0, 0, 0, 0, 0x21, 0x58, 0x73, 0xd7, 0x01, 0x18, 5, 0, 0,
      0, 5, 0, 0, 0, 5, 0, 0, 0]
    ++ Text.Utf8.encode nestedName
    ++ sampleContent
    ++ [0x50, 0x4b, 0x01, 0x02, 0x14, 0x03, 0x14, 0, 0, 0, 0, 0, 0, 0, 0x21, 0x58, 0x73, 0xd7, 0x01,
      0x18, 5, 0, 0, 0, 5, 0, 0, 0, 5, 0, 0, 0, 0, 0, 0, 0, 0, 0]
    ++ executable
    ++ [0, 0, 0, 0]
    ++ Text.Utf8.encode nestedName
    ++ [0x50, 0x4b, 0x05, 0x06, 0, 0, 0, 0, 1, 0, 1, 0, 0x33, 0, 0, 0, 0x28, 0, 0, 0, 0, 0]

theorem node?_empty {l : Location} (h : l ≠ []) : (FileSystem.mk [] []).node? l = none := by
  obtain ⟨name, rest, rfl⟩ := List.exists_cons_of_ne_nil h
  rfl

theorem action_leaves_nested :
    ∃ path after, action nestedArchive nestedName ['.'] ⟨[], []⟩ = .ok path after ∧
      after.node? [['t']] = some (.file 0o755 sampleContent) ∧
      after.node? [['a']] = some .directory ∧ after.node? [['a'], ['b']] = none := by
  have hd : LeadsTo ⟨[], []⟩ ['.'] [] := ⟨by decide +kernel, by decide +kernel⟩
  have hlinks : ∀ (m : Location) (target : Text),
      (FileSystem.mk [] []).node? ([] ++ m) ≠ some (.link target) := by
    intro m target
    by_cases hm : m = []
    · simp [hm, node?_root]
    · simp [node?_empty hm]
  have hsuccess : isSuccess (action nestedArchive nestedName ['.'] ⟨[], []⟩) = true := by
    decide +kernel
  cases haction : action nestedArchive nestedName ['.'] ⟨[], []⟩ with
  | error error after =>
      rw [haction] at hsuccess
      cases hsuccess
  | ok path after =>
      obtain ⟨entry, content, fileName, hdelivered, hlast, hleaves, -⟩ :=
        action_leaves hd hlinks (fun m hm => node?_empty hm.1) haction
      obtain ⟨hmode, rfl⟩ : entry.mode? = some 0o100755 ∧ content = sampleContent := by
        have hsample : (delivered? nestedArchive nestedName).map
            (fun found => (found.1.mode?, found.2)) = some (some 0o100755, sampleContent) := by
          decide +kernel
        simpa [hdelivered] using hsample
      have hcomponents : (components nestedName).getLast? = some (.name ['t']) := by decide
      obtain rfl : ['t'] = fileName := by simpa [hcomponents] using hlast
      have hnames : (innerOf nestedName).dropLast = [['a'], ['b']].map .name := by decide
      obtain ⟨hstaging, hdirectories⟩ := directories_of_names hnames
      refine ⟨path, after, rfl, ?_, ?_, ?_⟩
      · have hfile := hleaves.file
        rw [hmode] at hfile
        exact hfile
      · refine hleaves.directories [['a']] ((hdirectories _).mpr (by decide)) ?_
        rw [hstaging]
        decide
      · refine (hleaves.elsewhere [['a'], ['b']] (by decide) ?_).trans rfl
        rintro m rfl -
        exact hstaging.symm

/-- An installation into an empty directory that leaves a directory beside the file. -/
theorem action_leaves_directory :
    LeadsTo ⟨[], []⟩ ['.'] [] ∧ (FileSystem.mk [] []).node? [['a']] = none ∧
      isSuccess (action nestedArchive nestedName ['.'] ⟨[], []⟩) = true ∧
      (filesAfter (action nestedArchive nestedName ['.'] ⟨[], []⟩)).node? [['a']] =
        some .directory :=
  ⟨⟨by decide +kernel, by decide +kernel⟩, rfl, by decide +kernel, by decide +kernel⟩

end Samples

end ShaderTools.Proofs.StagingLeftovers
