import ShaderTools.Proofs.EntryOperations
import ShaderTools.Proofs.WalkEnds

/-!
Paths that stay below where they start. The depth of a path counts its names less its double dots,
and is refused where it would be below zero on the way; a walk along such a path from a directory
without links below it ends below that directory.
-/

namespace ShaderTools.Proofs.ContainedPaths

open ShaderTools.FileSystem
open ShaderTools.Path
open ShaderTools.Proofs.PathWalks
open ShaderTools.Proofs.EntryOperations
open ShaderTools.Proofs.WalkEnds

section Depths

/-- Steps that never lead above where they start, from a place so many names below it. -/
def StaysBelow : Nat → List PathStep → Prop
  | _, [] => True
  | depth, .here :: rest => StaysBelow depth rest
  | 0, .up :: _ => False
  | depth + 1, .up :: rest => StaysBelow depth rest
  | depth, .name _ :: rest => StaysBelow (depth + 1) rest

theorem StaysBelow.of_append {depth : Nat} {steps more : List PathStep}
    (h : StaysBelow depth (steps ++ more)) : StaysBelow depth steps := by
  induction steps generalizing depth with
  | nil => trivial
  | cons step rest ih =>
      cases step with
      | here =>
          show StaysBelow depth rest
          exact ih h
      | up =>
          cases depth with
          | zero => exact h
          | succ depth =>
              show StaysBelow depth rest
              exact ih h
      | name text =>
          show StaysBelow (depth + 1) rest
          exact ih h

theorem StaysBelow.of_skip {depth : Nat} {stay rest : List PathStep}
    (hstay : ∀ step ∈ stay, step = .here) (h : StaysBelow depth (stay ++ rest)) :
    StaysBelow depth rest := by
  induction stay with
  | nil => exact h
  | cons step others ih =>
      obtain rfl : step = .here := hstay step (by simp)
      exact ih (fun other hother => hstay other (by simp [hother])) h

/-- How many names there are among some components. -/
def nameCount (cs : List Component) : Nat :=
  cs.countP fun c => match c with | .name _ => true | _ => false

/-- A path that at some point climbs above its start. -/
def Climbs (p : Path) : Prop :=
  ∃ front, front <+: p.components ∧ nameCount front < front.count .parent

def nextDepth (depth : Nat) : Component → Option Nat
  | .root => none
  | .current => some depth
  | .parent => if depth = 0 then none else some (depth - 1)
  | .name _ => some (depth + 1)

theorem depth?_eq (p : Path) : p.depth? = p.components.foldlM nextDepth 0 := by
  unfold depth?
  congr 1

theorem foldlM_nextDepth_cons (depth : Nat) (c : Component) (cs : List Component) :
    (c :: cs).foldlM nextDepth depth =
      (nextDepth depth c).bind fun depth => cs.foldlM nextDepth depth := by
  rw [List.foldlM_cons]
  rfl

theorem staysBelow_of_foldlM {pieces : List Text} {depth : Nat}
    (h : ((pieces.filterMap componentOfPiece).foldlM nextDepth depth).isSome = true) :
    StaysBelow depth (pieces.map Route.stepOfPiece) := by
  induction pieces generalizing depth with
  | nil => trivial
  | cons piece rest ih =>
      by_cases hdot : piece = ['.']
      · subst hdot
        exact ih h
      · by_cases hdots : piece = ['.', '.']
        · subst hdots
          have hparent : componentOfPiece ['.', '.'] = some .parent := rfl
          rw [List.filterMap_cons_some hparent, foldlM_nextDepth_cons] at h
          cases depth with
          | zero => simp [nextDepth] at h
          | succ depth =>
              show StaysBelow depth (rest.map Route.stepOfPiece)
              exact ih (by simpa [nextDepth] using h)
        · have hname : componentOfPiece piece = some (.name piece) := by
            simp [componentOfPiece, hdot, hdots]
          rw [List.filterMap_cons_some hname, foldlM_nextDepth_cons] at h
          have hrest : StaysBelow (depth + 1) (rest.map Route.stepOfPiece) :=
            ih (by simpa [nextDepth] using h)
          simpa [Route.stepOfPiece, hdot, hdots, StaysBelow] using hrest

theorem isAbsolute_of_depth? {p : Path} (h : p.depth?.isSome = true) : p.isAbsolute = false := by
  cases habsolute : p.isAbsolute with
  | false => rfl
  | true =>
      rw [depth?_eq, components, if_pos habsolute, List.singleton_append,
        foldlM_nextDepth_cons] at h
      simp [nextDepth] at h

theorem staysBelow_of_depth? {p : Path} (h : p.depth?.isSome = true) :
    StaysBelow 0 (p.pieces.map Route.stepOfPiece) := by
  apply staysBelow_of_foldlM
  have habsolute := isAbsolute_of_depth? h
  rw [depth?_eq, components] at h
  simp only [habsolute, Bool.false_eq_true, if_false] at h
  split at h
  · rw [List.singleton_append, foldlM_nextDepth_cons] at h
    exact h
  · exact h

theorem count_le_of_foldlM {cs : List Component} {depth : Nat}
    (h : (cs.foldlM nextDepth depth).isSome = true) {front : List Component}
    (hfront : front <+: cs) : front.count .parent ≤ depth + nameCount front := by
  induction front generalizing cs depth with
  | nil => simp
  | cons c rest ih =>
      obtain ⟨cs', rfl⟩ : ∃ cs', cs = c :: cs' := by
        obtain ⟨more, rfl⟩ := hfront
        exact ⟨rest ++ more, rfl⟩
      have hrest : rest <+: cs' := (List.cons_prefix_cons.mp hfront).2
      rw [foldlM_nextDepth_cons] at h
      cases c with
      | root => simp [nextDepth] at h
      | current =>
          have hcount : rest.count .parent ≤ depth + nameCount rest :=
            ih (by simpa [nextDepth] using h) hrest
          simpa [nameCount] using hcount
      | parent =>
          cases depth with
          | zero => simp [nextDepth] at h
          | succ depth =>
              have hcount : rest.count .parent ≤ depth + nameCount rest :=
                ih (by simpa [nextDepth] using h) hrest
              simp only [nameCount, List.count_cons_self, List.countP_cons_of_neg,
                Bool.false_eq_true, not_false_eq_true] at hcount ⊢
              omega
      | name text =>
          have hcount : rest.count .parent ≤ depth + 1 + nameCount rest :=
            ih (by simpa [nextDepth] using h) hrest
          have hname : (Component.name text :: rest).count .parent = rest.count .parent :=
            List.count_cons_of_ne (by simp)
          simp only [nameCount, List.countP_cons_of_pos] at hcount ⊢
          omega

theorem depth?_of_climbs {p : Path} (h : Climbs p) : p.depth? = none := by
  obtain ⟨front, hfront, hcount⟩ := h
  by_contra hdepth
  rw [depth?_eq, ← ne_eq, Option.ne_none_iff_isSome] at hdepth
  have := count_le_of_foldlM hdepth hfront
  omega

end Depths

section Walks

variable {fs : FileSystem} {destination : Path} {d : Location} {last : LastName}

/-- A path leads to no name but in a directory at or below a place. -/
def LeadsBelow (fs : FileSystem) (d : Location) (last : LastName) (p : Path) : Prop :=
  ∀ parent name slash, fs.place last p = .ok (.entry parent name slash) →
    d <+: parent ∧ fs.node? parent = some .directory

theorem walkSteps_below (hlinks : ∀ m target, fs.node? (d ++ m) ≠ some (.link target))
    {ends slash : Bool} {follow : Location → Route → Except Failure Place}
    {steps : List PathStep} {m parent : Location} {name : Text}
    (hm : fs.node? (d ++ m) = some .directory) (hsteps : StaysBelow m.length steps)
    (h : walkSteps fs last ends follow (d ++ m) steps = .ok (.entry parent name slash)) :
    d <+: parent ∧ fs.node? parent = some .directory := by
  induction steps generalizing m with
  | nil => simp [walkSteps] at h
  | cons step rest ih =>
      cases step with
      | here => exact ih hm hsteps h
      | up =>
          rcases List.eq_nil_or_concat' m with rfl | ⟨above, name, rfl⟩
          · exact hsteps.elim
          · have habove := node?_dropLast hm
            rw [List.length_append, List.length_singleton] at hsteps
            rw [walkSteps] at h
            rw [← List.append_assoc, List.dropLast_concat] at habove h
            exact ih habove hsteps h
      | name text =>
          cases atName_of_walkSteps h with
          | slashed hrest hlast hslash hplace =>
              obtain ⟨rfl, -, -⟩ := by simpa using hplace
              exact ⟨List.prefix_append d m, hm⟩
          | ended hrest hopen hshort hlink hplace =>
              obtain ⟨rfl, -, -⟩ := by simpa using hplace
              exact ⟨List.prefix_append d m, hm⟩
          | linked target hopen hshort hnode hlast hplace =>
              rw [List.append_assoc] at hnode
              exact absurd hnode (hlinks _ target)
          | down hrest hshort hnode hplace =>
              rw [List.append_assoc] at hnode hplace
              exact ih hnode (by simpa [StaysBelow] using hsteps) hplace

/-- A path that is joined to one that leads to a directory is followed from there. -/
theorem exists_walk_join (hd : LeadsTo fs destination d) (hlast : last ≠ .followed)
    {relative : Path} (hnul : '\x00' ∉ relative) (hpieces : relative.pieces ≠ []) {place : Place}
    (h : fs.place last (destination.join relative) = .ok place) :
    ∃ ends follow,
      walkSteps fs last ends follow d (relative.pieces.map Route.stepOfPiece) = .ok place := by
  have hcontinues : Continues fs last _ _ _ _ :=
    place_join_continues (path_of_leadsTo hd).1 hnul hpieces (fun h => absurd h hlast)
      (isFollowed_of_place h).fits
  rw [Continues, arrival?_of_status hd.status] at hcontinues
  obtain ⟨follow, hplace⟩ := hcontinues
  exact ⟨_, follow, hplace.symm.trans h⟩

/-- A path that stays below its start leads below a directory that it is joined to. -/
theorem leadsBelow_join (hd : LeadsTo fs destination d)
    (hlinks : ∀ m target, fs.node? (d ++ m) ≠ some (.link target)) (hlast : last ≠ .followed)
    {relative : Path} (hnul : '\x00' ∉ relative) (hpieces : relative.pieces ≠ [])
    (hstays : StaysBelow 0 (relative.pieces.map Route.stepOfPiece)) :
    LeadsBelow fs d last (destination.join relative) := by
  intro parent name slash h
  obtain ⟨ends, follow, hwalk⟩ := exists_walk_join hd hlast hnul hpieces h
  rw [← List.append_nil d] at hwalk
  exact walkSteps_below (m := []) hlinks (by simpa using hd.node) hstays hwalk

theorem walkSteps_skip {slash : Bool} {follow : Location → Route → Except Failure Place}
    {l : Location} {stay : List PathStep} (hstay : ∀ step ∈ stay, step = .here)
    (rest : List PathStep) :
    walkSteps fs last slash follow l (stay ++ rest) = walkSteps fs last slash follow l rest := by
  induction stay with
  | nil => rfl
  | cons step others ih =>
      obtain rfl : step = .here := hstay step (by simp)
      exact ih fun other hother => hstay other (by simp [hother])

/-- Nothing is missing above a name in a directory. -/
theorem place_ne_notFound (hd : LeadsTo fs destination d) {relative : Path}
    (hnul : '\x00' ∉ relative) {stay : List PathStep} (hstay : ∀ step ∈ stay, step = .here)
    {name : Text} (hsteps : relative.pieces.map Route.stepOfPiece = stay ++ [.name name]) :
    fs.place .kept (destination.join relative) ≠ .error .notFound := by
  by_cases hfits : Text.Utf8.size (destination.join relative) < pathLimit
  · obtain ⟨hp, -, -⟩ := path_of_leadsTo hd
    have hpieces : relative.pieces ≠ [] := by
      intro hnil
      simp [hnil] at hsteps
    have hcontinues : Continues fs .kept _ _ _ _ :=
      place_join_continues hp hnul hpieces (by simp) hfits
    rw [Continues, arrival?_of_status hd.status] at hcontinues
    obtain ⟨follow, hplace⟩ := hcontinues
    rw [hplace, hsteps, walkSteps_skip hstay, walkSteps, if_neg (by simp)]
    split
    · simp
    · split <;> simp
  · rw [place_eq_nameTooLong hd hnul (Nat.not_lt.mp hfits)]
    simp

end Walks

end ShaderTools.Proofs.ContainedPaths
