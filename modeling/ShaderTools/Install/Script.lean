import ShaderTools.Install
import ShaderTools.Script

/-!
Installing as a script. An installation does to the files of the world it is run in what it does
to files alone, and nothing else to that world. A file that is staged whole is an event.
-/

namespace ShaderTools

/-- The result of an action on the files of a world, and the world after it. -/
def World.act {ε α : Type} (w : World) (action : FileAction ε α) : Except ε α × World :=
  match action w.files with
  | .ok value after => (.ok value, { w with files := after })
  | .error error after => (.error error, { w with files := after })

namespace Install

/-- Carries out steps until one fails. -/
def scriptOfSteps : List Step → Script (Except Error Unit)
  | [] => .done (.ok ())
  | .fault fault :: _ => .done (.error (.writing (.faulty fault)))
  | .change c :: rest =>
    .change c fun result =>
      match result with
      | .ok _ => scriptOfSteps rest
      | .error failure => .done (.error (refusal failure))

/-- The entry of a name is whole under its staged path. -/
def extracted (name : Text) (staged : Path) : Log.Event :=
  { level := .debug
    target := "mcglsl_core::install".toList
    message := "extracted archive entry".toList
    fields := [("entry".toList, name), ("path".toList, staged)] }

/-- Installs the entry of a name below a directory, and returns the absolute path of the file. -/
def script [Archive.Decoders] (archive : Bytes) (name : Text) (destination : Path) :
    Script (Except Error Path) :=
  match select archive name with
  | .error error => .done (.error error)
  | .ok selected => do
    let plan := Plan.of selected.relative selected.fileName destination
    match ← scriptOfSteps (plan.stagingSteps selected.mode? selected.payload) with
    | .error error => return .error error
    | .ok _ =>
      Script.log (extracted name plan.staged)
      match ← scriptOfSteps plan.movingSteps with
      | .error error => return .error error
      | .ok _ => return (← Script.absolute plan.final).mapError refusal

theorem run_scriptOfSteps (steps : List Step) (w : World) :
    (scriptOfSteps steps).run w = w.act (performAll steps) := by
  induction steps generalizing w with
  | nil => rfl
  | cons step rest ih =>
    cases step with
    | fault fault => rfl
    | change c =>
      cases h : c.perform w.files with
      | ok value after =>
        have hr : (scriptOfSteps (.change c :: rest)).run w
            = (scriptOfSteps rest).run { w with files := after } := by
          simp [scriptOfSteps, Script.run, World.change, h]
        rw [hr, ih]
        simp [World.act, performAll, Step.perform, FileAction.mapError, h, bind, EStateM.bind]
      | error failure after =>
        simp [scriptOfSteps, Script.run, World.change, World.act, performAll, Step.perform,
          FileAction.mapError, h, bind, EStateM.bind]

theorem run_script [Archive.Decoders] (archive : Bytes) (name : Text) (destination : Path)
    (w : World) : (script archive name destination).run w =
      w.act (action archive name destination) := by
  cases h : select archive name with
  | error error => simp [script, h, World.act, action_of_not_select h]
  | ok selected =>
    simp only [script, h, Script.run_bind, run_scriptOfSteps, World.act, action_of_select h,
      Plan.steps, performAll_append]
    cases performAll ((Plan.of selected.relative selected.fileName destination).stagingSteps
      selected.mode? selected.payload) w.files with
    | error error now => rfl
    | ok value now =>
      simp only [Script.run_bind, Script.run_log, run_scriptOfSteps, World.act]
      cases performAll (Plan.of selected.relative selected.fileName destination).movingSteps
        now with
      | error error after => rfl
      | ok value after =>
        simp only [Script.run_bind, Script.run_absolute, Script.run_pure]
        cases after.absolute (Plan.of selected.relative selected.fileName destination).final <;> rfl

end Install

end ShaderTools
