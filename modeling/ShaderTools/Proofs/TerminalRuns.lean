import ShaderTools.Proofs.ColorSequences
import ShaderTools.Proofs.SetupEndings

/-!
Runs with a terminal and without. Scripts that ask the same in each step, and write texts that
differ in their colour sequences alone, leave two worlds behind that differ in nothing else, and
have the same for the log. A setup is such a script on a terminal as well as into a pipe, and
printing snippets is the same script. Whatever a log ends in, none of its sequences goes on in a
message.
-/

namespace ShaderTools.Proofs.TerminalRuns

open ShaderTools.Http
open ShaderTools.Proofs.ColorSequences
open ShaderTools.Proofs.LoggedRuns
open ShaderTools.Proofs.ScriptQuestions
open ShaderTools.Proofs.SetupEndings

section Scripts

/-- Two texts for a channel: those for the output fade, those for errors are related. -/
def Rewritten (E : Text → Text → Prop) : Channel → Text → Text → Prop
  | .output => Fades
  | .errors => E

/-- Two scripts that ask the same in each step, but for the texts that they write. -/
inductive Redrawn {α : Type} (E : Text → Text → Prop) : Script α → Script α → Prop
  | done (value : α) : Redrawn E (.done value) (.done value)
  | write {channel : Channel} {t t' : Text} {next next' : Script α}
      (htext : Rewritten E channel t t') (hnext : Redrawn E next next') :
      Redrawn E (.write channel t next) (.write channel t' next')
  | event {e : Log.Event} {next next' : Script α} (hnext : Redrawn E next next') :
      Redrawn E (.event e next) (.event e next')
  | readLine {next next' : Bytes → Script α} (hnext : ∀ line, Redrawn E (next line) (next' line)) :
      Redrawn E (.readLine next) (.readLine next')
  | readFile {path : Path} {next next' : Except Failure Bytes → Script α}
      (hnext : ∀ result, Redrawn E (next result) (next' result)) :
      Redrawn E (.readFile path next) (.readFile path next')
  | workingPath {next next' : Except Failure Path → Script α}
      (hnext : ∀ result, Redrawn E (next result) (next' result)) :
      Redrawn E (.workingPath next) (.workingPath next')
  | change {c : FileChange} {next next' : Except Failure Unit → Script α}
      (hnext : ∀ result, Redrawn E (next result) (next' result)) :
      Redrawn E (.change c next) (.change c next')
  | request {r : Request} {next next' : Except Silence Response → Script α}
      (hnext : ∀ answer, Redrawn E (next answer) (next' answer)) :
      Redrawn E (.request r next) (.request r next')

variable {α β : Type} {E : Text → Text → Prop}

theorem Redrawn.bind {s s' : Script α} (h : Redrawn E s s') {f f' : α → Script β}
    (hf : ∀ value, Redrawn E (f value) (f' value)) : Redrawn E (s >>= f) (s' >>= f') := by
  induction h with
  | done value => exact hf value
  | write htext hnext ih => exact .write htext ih
  | event hnext ih => exact .event ih
  | readLine hnext ih => exact .readLine ih
  | readFile hnext ih => exact .readFile ih
  | workingPath hnext ih => exact .workingPath ih
  | change hnext ih => exact .change ih
  | request hnext ih => exact .request ih

theorem redrawn_of_quiet {s : Script α} (h : AsksOnly Question.IsQuiet s) : Redrawn E s s := by
  induction h with
  | done value => exact .done value
  | write hq hnext ih => exact hq.elim
  | event hq hnext ih => exact .event ih
  | readLine hq hnext ih => exact .readLine ih
  | readFile hq hnext ih => exact .readFile ih
  | workingPath hq hnext ih => exact .workingPath ih
  | change hq hnext ih => exact .change ih
  | request hq hnext ih => exact .request ih

/-- Two worlds that differ in what was written alone. -/
structure Beside (E : Text → Text → Prop) (w w' : World) : Prop where
  server : w'.server = w.server
  files : w'.files = w.files
  input : w'.input = w.input
  requests : w'.requests = w.requests
  output : Fades w.output w'.output
  errors : E w.errors w'.errors

/-- Texts that are related can be written one behind the other. -/
def Appends (E : Text → Text → Prop) : Prop :=
  ∀ a a' t t', E a a' → E t t' → E (a ++ t) (a' ++ t')

variable {w w' : World}

theorem Beside.write (hE : Appends E) (h : Beside E w w') {channel : Channel} {t t' : Text}
    (htext : Rewritten E channel t t') : Beside E (w.write channel t) (w'.write channel t') := by
  obtain ⟨hserver, hfiles, hinput, hrequests, houtput, herrors⟩ := h
  cases channel with
  | output => exact ⟨hserver, hfiles, hinput, hrequests, houtput.append htext, herrors⟩
  | errors => exact ⟨hserver, hfiles, hinput, hrequests, houtput, hE _ _ _ _ herrors htext⟩

theorem Beside.dropLine (h : Beside E w w') : Beside E w.dropLine w'.dropLine := by
  obtain ⟨hserver, hfiles, hinput, hrequests, houtput, herrors⟩ := h
  exact ⟨hserver, hfiles, by simp only [World.dropLine, hinput], hrequests, houtput, herrors⟩

theorem Beside.change (h : Beside E w w') (c : FileChange) :
    (w'.change c).1 = (w.change c).1 ∧ Beside E (w.change c).2 (w'.change c).2 := by
  obtain ⟨hserver, hfiles, hinput, hrequests, houtput, herrors⟩ := h
  simp only [World.change, hfiles]
  split <;> exact ⟨rfl, hserver, rfl, hinput, hrequests, houtput, herrors⟩

theorem Beside.request (h : Beside E w w') (r : Request) :
    (w'.request r).1 = (w.request r).1 ∧ Beside E (w.request r).2 (w'.request r).2 := by
  obtain ⟨hserver, hfiles, hinput, hrequests, houtput, herrors⟩ := h
  have hmade : w'.requests ++ [r] = w.requests ++ [r] := by rw [hrequests]
  exact ⟨by simp only [World.request, hserver, hmade], hserver, hfiles, hinput, hmade, houtput,
    herrors⟩

/-- Such scripts end with the same value, and leave two such worlds behind. -/
theorem Redrawn.run {s s' : Script α} (h : Redrawn E s s') (hE : Appends E)
    (hw : Beside E w w') : (s'.run w').1 = (s.run w).1 ∧ Beside E (s.run w).2 (s'.run w').2 := by
  -- Both worlds answer a question in the same way, so both scripts go on for the same answer.
  induction h generalizing w w' with
  | done value => exact ⟨rfl, hw⟩
  | write htext hnext ih => exact ih (hw.write hE htext)
  | event hnext ih => exact ih hw
  | readLine hnext ih =>
      simp only [Script.run, hw.input]
      exact ih _ hw.dropLine
  | readFile hnext ih =>
      simp only [Script.run, hw.files]
      exact ih _ hw
  | workingPath hnext ih =>
      simp only [Script.run, hw.files]
      exact ih _ hw
  | @change c next next' hnext ih =>
      obtain ⟨hresult, hbeside⟩ := hw.change c
      simp only [Script.run, hresult]
      exact ih _ hbeside
  | @request r next next' hnext ih =>
      obtain ⟨hanswer, hbeside⟩ := hw.request r
      simp only [Script.run, hanswer]
      exact ih _ hbeside

theorem events_noticesOf (channel : Channel) (t : Text) :
    Log.events (Script.noticesOf channel t) = [] := by
  cases channel <;> rfl

/-- Such scripts have the same for the log. -/
theorem Redrawn.events {s s' : Script α} (h : Redrawn E s s') (hE : Appends E)
    (hw : Beside E w w') : Log.events (s'.notices w') = Log.events (s.notices w) := by
  induction h generalizing w w' with
  | done value => rfl
  | write htext hnext ih =>
      simp only [Script.notices, events_append, events_noticesOf, List.nil_append]
      exact ih (hw.write hE htext)
  | @event e next next' hnext ih => exact congrArg (e :: ·) (ih hw)
  | readLine hnext ih =>
      simp only [Script.notices, hw.input]
      exact ih _ hw.dropLine
  | readFile hnext ih =>
      simp only [Script.notices, hw.files]
      exact ih _ hw
  | workingPath hnext ih =>
      simp only [Script.notices, hw.files]
      exact ih _ hw
  | @change c next next' hnext ih =>
      obtain ⟨hresult, hbeside⟩ := hw.change c
      simp only [Script.notices, hresult]
      exact ih _ hbeside
  | @request r next next' hnext ih =>
      obtain ⟨hanswer, hbeside⟩ := hw.request r
      simp only [Script.notices, hanswer]
      exact ih _ hbeside

end Scripts

section Programs

variable {E : Text → Text → Prop} (hE : ∀ t, Closed t → Fresh t → E t t)

theorem closed_line (t : Text) : Closed (t ++ ['\n']) := closed_concat (by decide) t

theorem closed_settingEntry (path : Path) : Closed (settingEntry path) :=
  closed_concat (by decide) ('"' :: (settingKey ++ "\": \"".toList
    ++ path.flatMap fun c => if c = '\\' then ['\\', '\\'] else [c]))

theorem redrawn_print (channel : Channel) {t t' : Text} (h : Rewritten E channel t t') :
    Redrawn E (Script.print channel t) (Script.print channel t') :=
  .write h (.done _)

theorem fades_line {t t' : Text} (h : Fades t t') : Fades (t ++ ['\n']) (t' ++ ['\n']) :=
  h.append (closed_line []).fades

theorem redrawn_tell (styling : Terminal.Styling) (severity : Terminal.Severity) {message : Text}
    (h : Closed message) :
    Redrawn E (Program.tell .plain .output severity message)
      (Program.tell styling .output severity message) :=
  redrawn_print .output (fades_line (h.fades_statusLine styling severity))

theorem fresh_report (what : Text) (causes : List Text) : Fresh (Terminal.report what causes) :=
  fresh_cons (by decide) _

include hE

theorem redrawn_fail (what : Text) (causes : List Text) :
    Redrawn E (Program.fail what causes) (Program.fail what causes) :=
  (redrawn_print .errors (hE _ (closed_line _) (fresh_report what causes))).bind fun _ => .done _

variable [Archive.Decoders]

theorem redrawn_installInto (styling : Terminal.Styling) (p : Platform) (base : Text)
    (directory : Path) :
    Redrawn E (Program.installInto .plain p base directory)
      (Program.installInto styling p base directory) := by
  have hannounced : Closed "Downloading...".toList := by decide
  have hdone : Closed
      (p.fileName ++ " downloaded. Add this line to your VSCode settings:".toList) := by
    cases p <;> decide
  refine (redrawn_tell styling .info hannounced).bind fun _ => ?_
  refine (redrawn_of_quiet (quiet_forPlatform p base directory)).bind fun result => ?_
  cases result with
  | error error => exact redrawn_fail hE _ _
  | ok path =>
      refine (redrawn_tell styling .success hdone).bind fun _ => ?_
      have hentry := (closed_settingEntry path).fades_paint styling Terminal.highlightColor
      exact (redrawn_print .output (fades_line hentry)).bind fun _ => .done _

theorem redrawn_setupFor {i i' : Invocation} (hplain : i.styling = .plain)
    (henvironment : i'.environment = i.environment) (options : CommandLine.SetupOptions)
    (p : Platform) :
    Redrawn E (Program.setupFor i options p) (Program.setupFor i' options p) := by
  have hurl : i'.releaseUrl? = i.releaseUrl? := by
    simp only [Invocation.releaseUrl?, Invocation.value?, henvironment]
  unfold Program.setupFor
  rw [hplain, hurl]
  refine (redrawn_of_quiet (quiet_destination _)).bind fun directory => ?_
  cases directory with
  | error failure => exact redrawn_fail hE _ _
  | ok directory =>
      refine Redrawn.bind (.change fun _ => .done _) fun result => ?_
      cases result with
      | error failure => exact redrawn_fail hE _ _
      | ok value =>
          exact (redrawn_of_quiet (quiet_log _)).bind fun _ => redrawn_installInto hE _ _ _ _

end Programs

section Runs

/-- Two fresh texts that are the same without their colour sequences, and closed. -/
structure Refades (t t' : Text) : Prop extends Fades t t' where
  fresh : Fresh t
  fresh' : Fresh t'

theorem appends_refades : Appends Refades :=
  fun _ _ _ _ ha ht =>
    ⟨ha.toFades.append ht.toFades, ha.fresh.append ht.fresh, ha.fresh'.append ht.fresh'⟩

def onTerminal (i : Invocation) : Invocation := { i with isTerminal := true }

def intoPipe (i : Invocation) : Invocation := { i with isTerminal := false }

/-- The world of a run that has not begun is beside itself. -/
theorem beside_start (server : Server) (input : Bytes) (files : FileSystem) :
    Beside Refades (World.mk server files input [] [] []) (World.mk server files input [] [] []) :=
  ⟨rfl, rfl, rfl, rfl, closed_nil.fades, closed_nil.fades, fresh_nil, fresh_nil⟩

variable [Archive.Decoders] {i i' : Invocation}

/-- A setup is redrawn by a terminal, the refusal of a platform included. -/
theorem redrawn_setup (hplain : i.styling = .plain) (henvironment : i'.environment = i.environment)
    (options : CommandLine.SetupOptions) :
    Redrawn Refades (Program.setup i options) (Program.setup i' options) := by
  have hfades : ∀ t, Closed t → Fresh t → Refades t t := fun _ hclosed hfresh =>
    ⟨hclosed.fades, hfresh, hfresh⟩
  have hmenu : Closed Platform.menu := by decide
  have hselection : Redrawn Refades (Program.selection options.os?)
      (Program.selection options.os?) := by
    unfold Program.selection
    split
    · exact .done _
    · exact .write hmenu.fades (.readLine fun _ => .done _)
  refine (redrawn_of_quiet (quiet_log _)).bind fun _ => hselection.bind fun selected => ?_
  cases selected with
  | error failure => exact redrawn_fail hfades _ _
  | ok given =>
      cases hplatform : Platform.ofText given with
      | ok p =>
          simp only [hplatform]
          exact redrawn_setupFor hfades hplain henvironment options p
      | error e =>
          have hmessage : Closed e.message := by
            show Closed "Invalid OS. Please only choose a value between 0 and 2".toList
            decide
          have hline := fades_line (hmessage.fades_statusLine i'.styling .error)
          have hrefades : Rewritten Refades .errors _ _ :=
            ⟨hline, fresh_statusLine _ _ _, fresh_statusLine _ _ _⟩
          simp only [hplatform, Program.tell, hplain]
          exact (redrawn_print .errors hrefades).bind fun _ => .done _

theorem script_of_read {command : CommandLine.Command}
    (h : CommandLine.read i.releaseUrl? i.arguments = .ok command) :
    i.script = Program.perform i command := by
  rw [Invocation.script, h]

theorem redrawn_script {options : CommandLine.SetupOptions}
    (h : CommandLine.read i.releaseUrl? i.arguments = .ok (.setup options)) :
    Redrawn Refades (intoPipe i).script (onTerminal i).script := by
  rw [@script_of_read _ (intoPipe i) _ h, @script_of_read _ (onTerminal i) _ h]
  exact @redrawn_setup _ (intoPipe i) (onTerminal i) rfl rfl options

end Runs

section Samples

attribute [local instance] Archive.Decoders.absent

end Samples

end ShaderTools.Proofs.TerminalRuns
