import ShaderTools.Proofs.OperationEffects
import ShaderTools.Proofs.StagedPaths
import ShaderTools.Proofs.UsableInstalls

/-!
Making a directory with all that are missing above it. A directory that was made is where its path
leads, so what is made lies where the path or one above it leads, was missing before, and is all
that changes; and where the making succeeds, the path leads to a directory.
-/

namespace ShaderTools.Proofs.MadeDirectories

open ShaderTools.FileSystem
open ShaderTools.Proofs.PathWalks
open ShaderTools.Proofs.InstalledFiles
open ShaderTools.Proofs.WalkEnds
open ShaderTools.Proofs.OperationEffects
open ShaderTools.Proofs.StagedPaths
open ShaderTools.Proofs.UsableInstalls

variable {fs now after : FileSystem} {l parent : Location} {name : Text}

section Arrivals

/-- A route with steps behind it that stay where they are. -/
structure Stays (route longer : Route) : Prop where
  isAbsolute : longer.isAbsolute = route.isAbsolute
  steps : ∃ extra, (∀ step ∈ extra, step = PathStep.here) ∧
    stepsFor .followed longer = route.steps ++ extra

theorem walkSteps_stay {slash : Bool} {follow : Location → Route → Except Failure Place}
    {extra : List PathStep} (hextra : ∀ step ∈ extra, step = PathStep.here) :
    walkSteps fs .followed slash follow l extra = .ok (.directory l) := by
  induction extra with
  | nil => rfl
  | cons step rest ih =>
      obtain rfl := hextra step List.mem_cons_self
      exact ih fun other hother => hextra other (List.mem_cons_of_mem _ hother)

theorem stays_linkRoute {target : Text} {rest extra : List PathStep}
    (hextra : ∀ step ∈ extra, step = PathStep.here) (slash slash' : Bool) :
    Stays (linkRoute target rest slash) (linkRoute target (rest ++ extra) slash') := by
  refine ⟨rfl, ?_⟩
  unfold stepsFor
  split
  · refine ⟨extra ++ [.here], ?_, by simp [linkRoute]⟩
    intro step hstep
    rcases List.mem_append.mp hstep with hstep | hstep
    · exact hextra step hstep
    · exact List.mem_singleton.mp hstep
  · exact ⟨extra, hextra, by simp [linkRoute]⟩

/-- A walk to a name where nothing is, arrives there once a directory is. -/
theorem arrival?_walkSteps {follow follow' : Location → Route → Except Failure Place}
    {slash slash' ends : Bool} {steps extra : List PathStep}
    (hkeeps : ∀ l found, LeadsOn found → fs.node? l = some found → after.node? l = some found)
    (hmade : after.node? (parent ++ [name]) = some .directory)
    (hfollow : ∀ l route longer, Stays route longer →
      follow l route = .ok (.entry parent name slash) →
        arrival? after (follow' l longer) = some (parent ++ [name]))
    (hextra : ∀ step ∈ extra, step = PathStep.here)
    (h : walkSteps fs .kept ends follow l steps = .ok (.entry parent name slash)) :
    arrival? after (walkSteps after .followed slash' follow' l (steps ++ extra)) =
      some (parent ++ [name]) := by
  induction steps generalizing l with
  | nil => simp [walkSteps] at h
  | cons step rest ih =>
      cases step with
      | here => exact ih h
      | up => exact ih h
      | name text =>
          rw [List.cons_append]
          cases atName_of_walkSteps h with
          | slashed hrest hlast hslash hplace => simp at hlast
          | ended hrest hopen hshort hlink hplace =>
              obtain ⟨rfl, rfl, -⟩ : parent = l ∧ name = text ∧ _ := by simpa using hplace
              subst hrest
              rw [List.nil_append]
              by_cases hextra' : extra = []
              · subst hextra'
                rw [(AtName.ended rfl (by simp) hshort (Or.inr (by simp [hmade])) rfl).walkSteps]
                simp [arrival?, hmade]
              · rw [(AtName.down hextra' hshort hmade (walkSteps_stay hextra)).walkSteps]
                rfl
          | linked target hopen hshort hnode hlast hplace =>
              have hrest : rest ≠ [] := fun hrest => hlast ⟨hrest, rfl⟩
              have harrival := hfollow _ _ _ (stays_linkRoute hextra ends slash') hplace
              rw [walkSteps, if_neg (by simp), if_neg (Nat.not_lt.mpr hshort),
                hkeeps _ _ (Or.inr ⟨target, rfl⟩) hnode]
              simpa [linkRoute] using harrival
          | down hrest hshort hnode hplace =>
              have harrival := ih hplace
              rw [walkSteps, if_neg (by simp), if_neg (Nat.not_lt.mpr hshort),
                hkeeps _ _ (Or.inl rfl) hnode]
              simpa [hrest] using harrival

theorem arrival?_walk {slash : Bool} (links : Nat) {route longer : Route}
    (hkeeps : ∀ l found, LeadsOn found → fs.node? l = some found → after.node? l = some found)
    (hmade : after.node? (parent ++ [name]) = some .directory) (hlonger : Stays route longer)
    (h : walk fs .kept links l route = .ok (.entry parent name slash)) :
    arrival? after (walk after .followed links l longer) = some (parent ++ [name]) := by
  induction links generalizing l route longer with
  | zero =>
      obtain ⟨habsolute, extra, hextra, hsteps⟩ := hlonger
      rw [walk, habsolute, hsteps]
      exact arrival?_walkSteps hkeeps hmade (by simp) hextra h
  | succ links ih =>
      obtain ⟨habsolute, extra, hextra, hsteps⟩ := hlonger
      rw [walk, habsolute, hsteps]
      exact arrival?_walkSteps hkeeps hmade (fun _ _ _ hstays hplace => ih hstays hplace) hextra h

theorem stays_refl (route : Route) : Stays route route := by
  refine ⟨rfl, ?_⟩
  unfold stepsFor
  split
  · exact ⟨[.here], by simp, rfl⟩
  · exact ⟨[], by simp, by simp⟩

/-- A directory that was made is where its path leads. -/
theorem status_of_makeDirectory {p : Path}
    (h : fs.makeDirectory p = .ok after) :
    ∃ l, fs.node? l = none ∧ Puts fs after l (some .directory) ∧
      after.status p = .ok (l, .directory) := by
  obtain ⟨parent, name, slash, hplace, hnone, hputs⟩ := makeDirectory_ok h
  refine ⟨parent ++ [name], hnone, hputs, ?_⟩
  have hkeeps := hputs.keeps (by simp [hnone])
  rw [status_eq_iff_arrival?, (isFollowed_of_place hplace).place_eq, hputs.workingDirectory]
  exact arrival?_walk linkLimit hkeeps hputs.node?_self (stays_refl _) (walk_of_place hplace)

end Arrivals

section Making

variable {p : Path}

/-- Every node is as before, or is a directory that was missing, and to which one of some paths
leads. -/
structure MakesOnly (paths : List Path) (fs after : FileSystem) : Prop where
  workingDirectory : after.workingDirectory = fs.workingDirectory
  nodes : ∀ l, after.node? l = fs.node? l ∨
    (fs.node? l = none ∧ after.node? l = some .directory ∧
      ∃ p ∈ paths, after.status p = .ok (l, .directory))

theorem MakesOnly.makeDirectory {paths : List Path} (h : MakesOnly paths fs now)
    (hmem : p ∈ paths) (hmade : now.makeDirectory p = .ok after) :
    MakesOnly paths fs after := by
  obtain ⟨made, hnone, hputs, hstatus⟩ := status_of_makeDirectory hmade
  refine ⟨hputs.workingDirectory.trans h.workingDirectory, fun l => ?_⟩
  by_cases hl : l = made
  · subst hl
    rcases h.nodes l with hkept | ⟨-, hdirectory, -⟩
    · exact Or.inr ⟨hkept.symm.trans hnone, hputs.node?_self, p, hmem, hstatus⟩
    · simp [hnone] at hdirectory
  · rw [hputs.node?_of_ne hl]
    rcases h.nodes l with hkept | ⟨hbefore, hdirectory, q, hq, hleads⟩
    · exact Or.inl hkept
    · have hstill := status_of_keeps (hputs.keeps (by simp [hnone])) hputs.workingDirectory hleads
      exact Or.inr ⟨hbefore, hdirectory, q, hq, hstill⟩

end Making

end ShaderTools.Proofs.MadeDirectories
