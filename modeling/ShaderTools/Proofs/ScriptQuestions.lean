import ShaderTools.Program

/-!
What scripts ask of their surroundings, and what a run leaves alone because it was never asked for.
A run that reads no line does not notice what the input is, nor what was written before; one that
writes nothing leaves both channels as they are.
-/

namespace ShaderTools.Proofs.ScriptQuestions

open ShaderTools.Http

section Questions

/-- What a script asks of its surroundings in one step. -/
inductive Question where
  | write (channel : Channel) (text : Text)
  | event (event : Log.Event)
  | readLine
  | readFile (path : Path)
  | workingPath
  | change (change : FileChange)
  | request (request : Request)

/-- The world after a question was answered. -/
def Question.after : Question → World → World
  | .write channel text, w => w.write channel text
  | .event _, w => w
  | .readLine, w => w.dropLine
  | .readFile _, w => w
  | .workingPath, w => w
  | .change c, w => (w.change c).2
  | .request r, w => (w.request r).2

/-- Every question that a script may come to, whatever it is answered, has a property. -/
inductive AsksOnly {α : Type} (P : Question → Prop) : Script α → Prop
  | done (value : α) : AsksOnly P (.done value)
  | write {channel : Channel} {text : Text} {next : Script α} (hq : P (.write channel text))
      (hnext : AsksOnly P next) : AsksOnly P (.write channel text next)
  | event {e : Log.Event} {next : Script α} (hq : P (.event e)) (hnext : AsksOnly P next) :
      AsksOnly P (.event e next)
  | readLine {next : Bytes → Script α} (hq : P .readLine) (hnext : ∀ line, AsksOnly P (next line)) :
      AsksOnly P (.readLine next)
  | readFile {path : Path} {next : Except Failure Bytes → Script α} (hq : P (.readFile path))
      (hnext : ∀ result, AsksOnly P (next result)) : AsksOnly P (.readFile path next)
  | workingPath {next : Except Failure Path → Script α} (hq : P .workingPath)
      (hnext : ∀ result, AsksOnly P (next result)) : AsksOnly P (.workingPath next)
  | change {c : FileChange} {next : Except Failure Unit → Script α} (hq : P (.change c))
      (hnext : ∀ result, AsksOnly P (next result)) : AsksOnly P (.change c next)
  | request {r : Request} {next : Except Silence Response → Script α} (hq : P (.request r))
      (hnext : ∀ answer, AsksOnly P (next answer)) : AsksOnly P (.request r next)

variable {α β γ : Type} {P Q : Question → Prop}

theorem AsksOnly.mono (hPQ : ∀ q, P q → Q q) {s : Script α} (h : AsksOnly P s) : AsksOnly Q s := by
  induction h with
  | done value => exact .done value
  | write hq hnext ih => exact .write (hPQ _ hq) ih
  | event hq hnext ih => exact .event (hPQ _ hq) ih
  | readLine hq hnext ih => exact .readLine (hPQ _ hq) ih
  | readFile hq hnext ih => exact .readFile (hPQ _ hq) ih
  | workingPath hq hnext ih => exact .workingPath (hPQ _ hq) ih
  | change hq hnext ih => exact .change (hPQ _ hq) ih
  | request hq hnext ih => exact .request (hPQ _ hq) ih

theorem AsksOnly.bind {s : Script α} (h : AsksOnly P s) {f : α → Script β}
    (hf : ∀ value, AsksOnly P (f value)) : AsksOnly P (s >>= f) := by
  induction h with
  | done value => exact hf value
  | write hq hnext ih => exact .write hq ih
  | event hq hnext ih => exact .event hq ih
  | readLine hq hnext ih => exact .readLine hq ih
  | readFile hq hnext ih => exact .readFile hq ih
  | workingPath hq hnext ih => exact .workingPath hq ih
  | change hq hnext ih => exact .change hq ih
  | request hq hnext ih => exact .request hq ih

/-- A view of the world that every question leaves as it is, is the same after a run. -/
theorem AsksOnly.run_keeps {s : Script α} (h : AsksOnly P s) {view : World → γ}
    (hkeeps : ∀ q w, P q → view (q.after w) = view w) (w : World) :
    view (s.run w).2 = view w := by
  induction h generalizing w with
  | done value => rfl
  | write hq hnext ih => exact (ih _).trans (hkeeps _ w hq)
  | event hq hnext ih => exact ih w
  | readLine hq hnext ih => exact (ih _ _).trans (hkeeps _ w hq)
  | readFile hq hnext ih => exact ih _ w
  | workingPath hq hnext ih => exact ih _ w
  | change hq hnext ih => exact (ih _ _).trans (hkeeps _ w hq)
  | request hq hnext ih => exact (ih _ _).trans (hkeeps _ w hq)

end Questions

section Kinds

/-- A question that takes no line of the input. -/
def Question.IsUnprompted : Question → Prop
  | .readLine => False
  | _ => True

/-- A question that takes no line of the input and writes nothing. -/
def Question.IsQuiet : Question → Prop
  | .readLine => False
  | .write _ _ => False
  | _ => True

theorem Question.IsQuiet.isUnprompted {q : Question} (h : q.IsQuiet) : q.IsUnprompted := by
  cases q <;> trivial

/-- What a run has written, on either channel. -/
def written (w : World) : Text × Text := (w.output, w.errors)

theorem Question.IsQuiet.written_after {q : Question} (h : q.IsQuiet) (w : World) :
    written (q.after w) = written w := by
  cases q with
  | write channel text => exact h.elim
  | event e => rfl
  | readLine => exact h.elim
  | readFile path => rfl
  | workingPath => rfl
  | change c =>
      simp only [after, World.change]
      split <;> rfl
  | request r => rfl

theorem written_run_of_quiet {α : Type} {s : Script α} (h : AsksOnly Question.IsQuiet s)
    (w : World) : (s.run w).2.output = w.output ∧ (s.run w).2.errors = w.errors := by
  have hwritten : written (s.run w).2 = written w :=
    h.run_keeps (fun _ w' hq => hq.written_after w') w
  exact ⟨congrArg Prod.fst hwritten, congrArg Prod.snd hwritten⟩

/-- Two worlds that differ in their input alone, and in texts that the second one has written
before. -/
structure Ahead (front frontErrors : Text) (w w' : World) : Prop where
  server : w'.server = w.server
  files : w'.files = w.files
  requests : w'.requests = w.requests
  output : w'.output = front ++ w.output
  errors : w'.errors = frontErrors ++ w.errors

variable {front frontErrors : Text} {w w' : World}

theorem Ahead.write (h : Ahead front frontErrors w w') (channel : Channel) (text : Text) :
    Ahead front frontErrors (w.write channel text) (w'.write channel text) := by
  obtain ⟨hserver, hfiles, hrequests, houtput, herrors⟩ := h
  cases channel with
  | output => exact ⟨hserver, hfiles, hrequests, by simp [World.write, houtput], herrors⟩
  | errors => exact ⟨hserver, hfiles, hrequests, houtput, by simp [World.write, herrors]⟩

theorem Ahead.change (h : Ahead front frontErrors w w') (c : FileChange) :
    (w'.change c).1 = (w.change c).1 ∧
      Ahead front frontErrors (w.change c).2 (w'.change c).2 := by
  obtain ⟨hserver, hfiles, hrequests, houtput, herrors⟩ := h
  simp only [World.change, hfiles]
  split <;> exact ⟨rfl, hserver, rfl, hrequests, houtput, herrors⟩

theorem Ahead.request (h : Ahead front frontErrors w w') (r : Request) :
    (w'.request r).1 = (w.request r).1 ∧
      Ahead front frontErrors (w.request r).2 (w'.request r).2 := by
  obtain ⟨hserver, hfiles, hrequests, houtput, herrors⟩ := h
  have hmade : w'.requests ++ [r] = w.requests ++ [r] := by rw [hrequests]
  exact ⟨by simp only [World.request, hserver, hmade], hserver, hfiles, hmade, houtput, herrors⟩

/-- Runs that take no line end with the same value in two such worlds. -/
theorem Ahead.run {α : Type} {s : Script α} (hs : AsksOnly Question.IsUnprompted s)
    (h : Ahead front frontErrors w w') :
    (s.run w').1 = (s.run w).1 ∧ Ahead front frontErrors (s.run w).2 (s.run w').2 := by
  induction hs generalizing w w' with
  | done value => exact ⟨rfl, h⟩
  | write hq hnext ih => exact ih (h.write _ _)
  | event hq hnext ih => exact ih h
  | readLine hq hnext ih => exact hq.elim
  | readFile hq hnext ih =>
      simp only [Script.run, h.files]
      exact ih _ h
  | workingPath hq hnext ih =>
      simp only [Script.run, h.files]
      exact ih _ h
  | @change c next hq hnext ih =>
      obtain ⟨hresult, hahead⟩ := h.change c
      simp only [Script.run, hresult]
      exact ih _ hahead
  | @request r next hq hnext ih =>
      obtain ⟨hanswer, hahead⟩ := h.request r
      simp only [Script.run, hanswer]
      exact ih _ hahead

/-- Such runs give notice of the same. -/
theorem Ahead.notices {α : Type} {s : Script α} (hs : AsksOnly Question.IsUnprompted s)
    (h : Ahead front frontErrors w w') : s.notices w' = s.notices w := by
  induction hs generalizing w w' with
  | done value => rfl
  | write hq hnext ih =>
      simp only [Script.notices]
      rw [ih (h.write _ _)]
  | event hq hnext ih =>
      simp only [Script.notices]
      rw [ih h]
  | readLine hq hnext ih => exact hq.elim
  | readFile hq hnext ih =>
      simp only [Script.notices, h.files]
      exact ih _ h
  | workingPath hq hnext ih =>
      simp only [Script.notices, h.files]
      exact ih _ h
  | @change c next hq hnext ih =>
      obtain ⟨hresult, hahead⟩ := h.change c
      simp only [Script.notices, hresult]
      exact ih _ hahead
  | @request r next hq hnext ih =>
      obtain ⟨hanswer, hahead⟩ := h.request r
      simp only [Script.notices, hanswer]
      exact ih _ hahead

end Kinds

section Scripts

open Question

theorem quiet_follow (asked : Url) (left : Nat) (place : Download.Place) :
    AsksOnly IsQuiet (Download.follow asked left place) := by
  induction left generalizing place with
  | zero =>
      rw [Download.follow]
      refine .request trivial fun answer => ?_
      split
      · exact .done _
      · split
        · exact .done _
        · split <;> exact .done _
  | succ left ih =>
      rw [Download.follow]
      refine .request trivial fun answer => ?_
      split
      · exact .done _
      · split
        · exact .done _
        · split
          · exact .done _
          · simp only
            split
            · exact ih _
            · exact .done _

theorem quiet_log (e : Log.Event) : AsksOnly IsQuiet (Script.log e) := .event trivial (.done _)

theorem quiet_fetch (address : Text) : AsksOnly IsQuiet (Download.fetch address) := by
  unfold Download.fetch
  split
  · exact .done _
  · simp only
    split
    · exact .done _
    · split
      · exact .done _
      · refine (quiet_follow _ _ _).bind fun result => ?_
        split <;> exact .done _

theorem quiet_download (address : Text) : AsksOnly IsQuiet (download address) := by
  refine (quiet_log _).bind fun _ => (quiet_fetch address).bind fun result => ?_
  cases result with
  | error error => exact .done _
  | ok archive => exact (quiet_log _).bind fun _ => .done _

theorem quiet_scriptOfSteps (steps : List Install.Step) :
    AsksOnly IsQuiet (Install.scriptOfSteps steps) := by
  induction steps with
  | nil => exact .done _
  | cons step rest ih =>
      cases step with
      | fault fault => exact .done _
      | change c =>
          refine .change trivial fun result => ?_
          cases result with
          | error failure => exact .done _
          | ok value => exact ih

theorem quiet_absolute (p : Path) : AsksOnly IsQuiet (Script.absolute p) := by
  unfold Script.absolute
  split
  · exact .done _
  · exact .workingPath trivial fun _ => .done _

theorem quiet_destination (destination? : Option Path) :
    AsksOnly IsQuiet (Program.destination destination?) := by
  unfold Program.destination
  split
  · exact .done _
  · exact .workingPath trivial fun _ => .done _

section Setup

variable [Archive.Decoders]

theorem quiet_install (archive : Bytes) (name : Text) (destination : Path) :
    AsksOnly IsQuiet (Install.script archive name destination) := by
  unfold Install.script
  split
  · exact .done _
  · refine (quiet_scriptOfSteps _).bind fun result => ?_
    cases result with
    | error error => exact .done _
    | ok value =>
        refine (quiet_log _).bind fun _ => (quiet_scriptOfSteps _).bind fun result => ?_
        cases result with
        | error error => exact .done _
        | ok value => exact (quiet_absolute _).bind fun _ => .done _

/-- Setting up the validator takes no line of the input and writes nothing. -/
theorem quiet_forPlatform (p : Platform) (base : Text) (destination : Path) :
    AsksOnly IsQuiet (Setup.forPlatform p base destination) := by
  refine (quiet_download _).bind fun result => ?_
  cases result with
  | error error => exact .done _
  | ok archive =>
      refine (quiet_install _ _ _).bind fun result => ?_
      cases result with
      | error error => exact .done _
      | ok path => exact (quiet_log _).bind fun _ => .done _

end Setup

theorem unprompted_print (channel : Channel) (text : Text) :
    AsksOnly IsUnprompted (Script.print channel text) :=
  .write trivial (.done _)

theorem unprompted_tell (styling : Terminal.Styling) (channel : Channel)
    (severity : Terminal.Severity) (message : Text) :
    AsksOnly IsUnprompted (Program.tell styling channel severity message) :=
  unprompted_print _ _

theorem unprompted_fail (what : Text) (causes : List Text) :
    AsksOnly IsUnprompted (Program.fail what causes) :=
  (unprompted_print _ _).bind fun _ => .done _

variable [Archive.Decoders]

theorem unprompted_installInto (styling : Terminal.Styling) (p : Platform) (base : Text)
    (directory : Path) :
    AsksOnly IsUnprompted (Program.installInto styling p base directory) := by
  have hsetup : AsksOnly IsUnprompted (Setup.forPlatform p base directory) :=
    (quiet_forPlatform p base directory).mono fun _ => IsQuiet.isUnprompted
  refine (unprompted_tell _ _ _ _).bind fun _ => hsetup.bind fun result => ?_
  cases result with
  | error error => exact unprompted_fail _ _
  | ok path =>
      exact (unprompted_tell _ _ _ _).bind fun _ => (unprompted_print _ _).bind fun _ => .done _

/-- Once the platform is known, the setup command takes no line of the input. -/
theorem unprompted_setupFor (i : Invocation) (options : CommandLine.SetupOptions) (p : Platform) :
    AsksOnly IsUnprompted (Program.setupFor i options p) := by
  have hdestination : AsksOnly IsUnprompted (Program.destination options.destination?) :=
    (quiet_destination _).mono fun _ => IsQuiet.isUnprompted
  have hperform : ∀ c, AsksOnly IsUnprompted (Script.perform c) :=
    fun c => .change trivial fun _ => .done _
  refine hdestination.bind fun directory => ?_
  cases directory with
  | error failure => exact unprompted_fail _ _
  | ok directory =>
      refine (hperform _).bind fun result => ?_
      cases result with
      | error failure => exact unprompted_fail _ _
      | ok value =>
          have hlog : AsksOnly IsUnprompted (Script.log (Program.selected p
              (Program.baseUrl options.releaseUrl? i.releaseUrl?))) :=
            (quiet_log _).mono fun _ => IsQuiet.isUnprompted
          exact hlog.bind fun _ => unprompted_installInto _ _ _ _

end Scripts

section Runs

/-- What a script leaves behind that ends with an exit code. -/
def runOf (result : Nat × World) : Run :=
  ⟨result.1, result.2.output, result.2.errors, result.2.requests, result.2.files⟩

theorem run_of_read [Archive.Decoders] {i : Invocation} {command : CommandLine.Command}
    (hread : CommandLine.read i.releaseUrl? i.arguments = .ok command) (server : Server)
    (input : Bytes) (files : FileSystem) :
    i.run server input files =
      runOf ((Program.perform i command).run ⟨server, files, input, [], [], []⟩) := by
  rw [Invocation.run, Invocation.script, hread]
  rfl

end Runs

end ShaderTools.Proofs.ScriptQuestions
