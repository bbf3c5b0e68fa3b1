import ShaderTools.Proofs.OperationEffects

/-!
Runs of steps from one property of the files to another. What a run does is put together from what
each of its steps does.
-/

namespace ShaderTools.Proofs.StepRuns

open ShaderTools.Install
open ShaderTools.Proofs.InstalledFiles
open ShaderTools.Proofs.OperationEffects

/-- An action that starts with one property of the files ends well with a second one, or fails with
a third. -/
def Ends {ε α : Type} (before : FileSystem → Prop) (action : FileAction ε α)
    (ended failed : FileSystem → Prop) : Prop :=
  ∀ fs, before fs →
    match action fs with
    | .ok _ after => ended after
    | .error _ after => failed after

variable {P Q R E : FileSystem → Prop}

theorem ends_const {ε α : Type} {c : Prop} {action : FileAction ε α} :
    Ends (fun _ => c) action (fun _ => c) (fun _ => True) := by
  intro fs hc
  cases action fs with
  | ok value after => exact hc
  | error error after => trivial

theorem Ends.mono {ε α : Type} {action : FileAction ε α} (h : Ends P action Q E)
    (himp : ∀ now, Q now → R now) : Ends P action R E := by
  intro fs hfs
  have hrun := h fs hfs
  cases hresult : action fs with
  | ok value after =>
      rw [hresult] at hrun
      exact himp after hrun
  | error error after =>
      rw [hresult] at hrun
      exact hrun

theorem Ends.ended {ε α : Type} {action : FileAction ε α} (h : Ends P action Q E)
    {fs after : FileSystem} {value : α} (hfs : P fs) (hrun : action fs = .ok value after) :
    Q after := by
  have hends := h fs hfs
  rw [hrun] at hends
  exact hends

theorem Ends.change {c : FileChange} (h : Ends P c.perform Q E) :
    Ends P (Step.change c).perform Q E := by
  intro fs hfs
  have hc := h fs hfs
  simp only [Step.perform, FileAction.mapError]
  cases hresult : c.perform fs with
  | ok value after =>
      rw [hresult] at hc
      exact hc
  | error failure after =>
      rw [hresult] at hc
      exact hc

theorem ends_perform {operation : FileSystem → Except Failure FileSystem}
    (hok : ∀ now after, P now → operation now = .ok after → Q after)
    (hfailed : ∀ now, P now → E now) :
    Ends P (FileAction.perform operation) Q E := by
  intro fs hfs
  simp only [FileAction.perform]
  cases hresult : operation fs with
  | ok after => exact hok fs after hfs hresult
  | error failure => exact hfailed fs hfs

theorem ends_of_filesAfter {ε α : Type} {action : FileAction ε α}
    (h : ∀ now, P now → Q (filesAfter (action now))) (hfailed : ∀ now, Q now → E now) :
    Ends P action Q E := by
  intro fs hfs
  have hnow := h fs hfs
  cases hresult : action fs with
  | ok value after =>
      rw [hresult] at hnow
      exact hnow
  | error error after =>
      rw [hresult] at hnow
      exact hfailed after hnow

theorem ends_append {first second : List Step} (hfirst : Ends P (performAll first) Q E)
    (hsecond : Ends Q (performAll second) R E) : Ends P (performAll (first ++ second)) R E := by
  intro fs hfs
  have hrun := hfirst fs hfs
  rw [performAll_append]
  cases hresult : performAll first fs with
  | ok value now =>
      rw [hresult] at hrun
      exact hsecond now hrun
  | error error now =>
      rw [hresult] at hrun
      exact hrun

theorem ends_nil (h : ∀ now, P now → Q now) : Ends P (performAll []) Q E :=
  fun fs hfs => h fs hfs

theorem ends_singleton {step : Step} (h : Ends P step.perform Q E) :
    Ends P (performAll [step]) Q E := by
  intro fs hfs
  have hstep := h fs hfs
  simp only [performAll, bind, EStateM.bind]
  cases hresult : step.perform fs with
  | ok value after =>
      rw [hresult] at hstep
      exact hstep
  | error error after =>
      rw [hresult] at hstep
      exact hstep

theorem ends_toList {α : Type} {value? : Option α} {step : α → Step}
    (hsome : ∀ value, value? = some value → Ends P (step value).perform P E) :
    Ends P (performAll (value?.toList.map step)) P E := by
  cases value? with
  | none => exact ends_nil fun _ h => h
  | some value => exact ends_singleton (hsome value rfl)

/-- A property that every step keeps is kept by the whole run. -/
theorem ends_performAll {steps : List Step} (h : ∀ step ∈ steps, Ends P step.perform P E) :
    Ends P (performAll steps) P E := by
  induction steps with
  | nil => exact ends_nil fun _ h => h
  | cons step rest ih =>
      have hfirst := ends_singleton (h step (by simp))
      exact ends_append hfirst (ih fun other hother => h other (by simp [hother]))

/-- A plan is carried out from one property to the next. A file that is staged by its final path is
not moved, and without a directory for staging there is none to remove. -/
theorem ends_plan {plan : Plan} {mode? : Option Nat} {payload : Archive.Payload}
    {prepared written staged placed : FileSystem → Prop}
    (hprepared : Ends P (performAll (plan.stagingDirectory?.toList.map fun directory =>
      .change (.makeDirectories directory))) prepared E)
    (hwritten : Ends prepared (FileChange.overwrite plan.staged payload.bytes).perform written E)
    (hfault : ∀ now, written now → E now)
    (hmode : Ends written (performAll (mode?.toList.map fun mode =>
      .change (.setMode plan.staged mode))) staged E)
    (hsame : plan.staged.sameAs plan.final = true → ∀ now, staged now → placed now)
    (hmoved : ¬plan.staged.sameAs plan.final = true →
      Ends staged (FileChange.rename plan.staged plan.final).perform placed E)
    (hnone : plan.stagingDirectory? = none → ∀ now, placed now → Q now)
    (hremoved : ∀ directory, plan.stagingDirectory? = some directory →
      Ends placed (FileChange.removeDirectory directory).perform Q E) :
    Ends P (performAll (plan.steps mode? payload)) Q E := by
  have hchecked : Ends written (performAll (payload.fault.toList.map .fault)) written E :=
    ends_toList fun _ _ => hfault
  have hstaged := ends_append (ends_append (ends_append hprepared (ends_singleton hwritten.change))
    hchecked) hmode
  have hplaced : Ends staged (performAll (if plan.staged.sameAs plan.final then []
      else [.change (.rename plan.staged plan.final)])) placed E := by
    split
    · next h => exact ends_nil (hsame h)
    · next h => exact ends_singleton (hmoved h).change
  have hcleared : Ends placed (performAll (plan.stagingDirectory?.toList.map fun directory =>
      .change (.removeDirectory directory))) Q E := by
    cases hdirectory : plan.stagingDirectory? with
    | none => exact ends_nil (hnone hdirectory)
    | some directory => exact ends_singleton (hremoved directory hdirectory).change
  exact ends_append hstaged (ends_append hplaced hcleared)

theorem ends_workingDirectory (d : Location) (c : FileChange) :
    Ends (·.workingDirectory = d) c.perform (·.workingDirectory = d)
      (·.workingDirectory = d) := by
  cases c with
  | makeDirectories path =>
      refine ends_of_filesAfter ?_ fun _ h => h
      intro now hnow
      exact filesAfter_makeDirectories
        (fun p _ now after hnow h => (workingDirectory_makeDirectory h).trans hnow) hnow
  | overwrite path content =>
      exact ends_perform (fun now after hnow h => (workingDirectory_overwrite h).trans hnow)
        fun _ h => h
  | setMode path mode =>
      exact ends_perform (fun now after hnow h => (workingDirectory_setMode h).trans hnow)
        fun _ h => h
  | rename source target =>
      exact ends_perform (fun now after hnow h => (workingDirectory_rename h).trans hnow)
        fun _ h => h
  | removeDirectory path =>
      exact ends_perform (fun now after hnow h => (workingDirectory_removeDirectory h).trans hnow)
        fun _ h => h

/-- No run leaves the working directory. -/
theorem workingDirectory_performAll (steps : List Step) (fs : FileSystem) :
    (filesAfter (performAll steps fs)).workingDirectory = fs.workingDirectory := by
  have hsteps : Ends (·.workingDirectory = fs.workingDirectory) (performAll steps)
      (·.workingDirectory = fs.workingDirectory) (·.workingDirectory = fs.workingDirectory) := by
    apply ends_performAll
    intro step _
    cases step with
    | change c => exact (ends_workingDirectory _ c).change
    | fault f => exact fun now hnow => hnow
  have hrun := hsteps fs rfl
  cases hresult : performAll steps fs with
  | ok value after =>
      rw [hresult] at hrun
      exact hrun
  | error error after =>
      rw [hresult] at hrun
      exact hrun

end ShaderTools.Proofs.StepRuns
