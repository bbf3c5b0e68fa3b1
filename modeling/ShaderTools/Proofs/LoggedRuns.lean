import ShaderTools.Proofs.ScriptQuestions

/-!
What is logged of a run. A run hands the log everything that it has for it before it writes its
first message where errors are told, so what is written there is the log and, behind it, the
messages as they would be without one.
-/

namespace ShaderTools.Proofs.LoggedRuns

open ShaderTools.Log
open ShaderTools.Proofs.ScriptQuestions

section Notices

variable {front rest notices : List Notice}

theorem messages_append (front rest : List Notice) :
    messages (front ++ rest) = messages front ++ messages rest :=
  List.flatMap_append

theorem events_append (front rest : List Notice) :
    events (front ++ rest) = events front ++ events rest :=
  List.filterMap_append

/-- Every event comes before every message. -/
inductive EventsFirst : List Notice → Prop
  | noEvent {notices : List Notice} (h : events notices = []) : EventsFirst notices
  | event (e : Event) {rest : List Notice} (h : EventsFirst rest) : EventsFirst (.event e :: rest)

/-- There is no message among some notices. -/
def Untold (notices : List Notice) : Prop := ∀ n ∈ notices, ∃ e, n = .event e

theorem EventsFirst.behind (h : EventsFirst rest) (hfront : Untold front) :
    EventsFirst (front ++ rest) := by
  induction front with
  | nil => exact h
  | cons n others ih =>
      obtain ⟨⟨e, rfl⟩, hothers⟩ := List.forall_mem_cons.mp hfront
      exact .event e (ih hothers)

theorem textBehind_of_events_eq_nil (j : Journal) (before : List Event)
    (h : events notices = []) : j.textBehind before notices = messages notices := by
  induction notices with
  | nil => rfl
  | cons n rest ih =>
      cases n with
      | message text => exact congrArg (text ++ ·) (ih h)
      | event e => exact nomatch h

theorem EventsFirst.textBehind_eq (h : EventsFirst notices) (j : Journal) (before : List Event) :
    j.textBehind before notices = j.textOfEvents before (events notices) ++ messages notices := by
  induction h generalizing before with
  | noEvent h =>
      rw [textBehind_of_events_eq_nil j before h, h]
      rfl
  | @event e rest _ ih =>
      let now := before ++ [e]
      calc j.textBehind before (.event e :: rest)
          = j now ++ j.textBehind now rest := rfl
        _ = j now ++ (j.textOfEvents now (events rest) ++ messages rest) := by rw [ih]
        _ = j.textOfEvents before (events (.event e :: rest)) ++ messages (.event e :: rest) :=
            (List.append_assoc _ _ _).symm

/-- Where the events come first, the whole log does. -/
theorem EventsFirst.text_eq (h : EventsFirst notices) (j : Journal) :
    j.text notices = j.logged (events notices) ++ messages notices := by
  rw [Journal.text, h.textBehind_eq, Journal.logged, List.append_assoc]

/-- Without events, what is written when the log is opened is all of it. -/
theorem text_message (j : Journal) (t : Text) : j.text [.message t] = j [] ++ t := by
  simp only [Journal.text, Journal.textBehind, List.append_nil]

theorem textOfEvents_of_empty (before later : List Event) :
    Journal.textOfEvents (fun _ => []) before later = [] := by
  induction later generalizing before with
  | nil => rfl
  | cons e rest ih => exact ih _

end Notices

section Scripts

variable {α β : Type}

theorem errors_write (w : World) (channel : Channel) (text : Text) :
    (w.write channel text).errors = w.errors ++ messages (Script.noticesOf channel text) := by
  cases channel with
  | output => exact (List.append_nil _).symm
  | errors => simp [World.write, Script.noticesOf, messages]

/-- The messages that a run gives notice of are what it writes for errors. -/
theorem errors_run (s : Script α) (w : World) :
    (s.run w).2.errors = w.errors ++ messages (s.notices w) := by
  induction s generalizing w with
  | done value => exact (List.append_nil _).symm
  | write channel text next ih =>
      rw [Script.run, ih, errors_write, Script.notices, messages_append, List.append_assoc]
  | event e next ih => exact ih w
  | readLine next ih => exact ih _ w.dropLine
  | readFile path next ih => exact ih _ w
  | workingPath next ih => exact ih _ w
  | change c next ih =>
      have herrors : (w.change c).2.errors = w.errors := by
        simp only [World.change]
        split <;> rfl
      rw [Script.run, ih, herrors]
      rfl
  | request r next ih => exact ih _ (w.request r).2

/-- A question that writes nothing for errors. -/
def IsUntold : Question → Prop
  | .write .errors _ => False
  | _ => True

theorem isUntold_of_isQuiet {q : Question} (h : q.IsQuiet) : IsUntold q := by
  cases q with
  | write channel text => exact h.elim
  | _ => trivial

theorem untold_notices {s : Script α} (h : AsksOnly IsUntold s) (w : World) :
    Untold (s.notices w) := by
  induction h generalizing w with
  | done value => exact List.forall_mem_nil _
  | @write channel text next hq hnext ih =>
      cases channel with
      | output => exact ih _
      | errors => exact hq.elim
  | @event e next hq hnext ih => exact List.forall_mem_cons.mpr ⟨⟨e, rfl⟩, ih w⟩
  | readLine hq hnext ih => exact ih _ _
  | readFile hq hnext ih => exact ih _ w
  | workingPath hq hnext ih => exact ih _ w
  | change hq hnext ih => exact ih _ _
  | request hq hnext ih => exact ih _ _

/-- A script that has nothing more for the log once it has written a message. -/
def LogsFirst (s : Script α) : Prop := ∀ w, EventsFirst (s.notices w)

theorem logsFirst_pure (value : α) : LogsFirst (pure value : Script α) := fun _ => .noEvent rfl

theorem LogsFirst.behind {s : Script α} (hs : AsksOnly IsUntold s) {f : α → Script β}
    (hf : ∀ value, LogsFirst (f value)) : LogsFirst (s >>= f) := by
  intro w
  rw [Script.notices_bind]
  exact (hf _ _).behind (untold_notices hs w)

theorem LogsFirst.behindQuiet {s : Script α} (hs : AsksOnly Question.IsQuiet s)
    {f : α → Script β} (hf : ∀ value, LogsFirst (f value)) : LogsFirst (s >>= f) :=
  .behind (hs.mono fun _ => isUntold_of_isQuiet) hf

theorem LogsFirst.behindOutput {text : Text} {f : Unit → Script β} (hf : LogsFirst (f ())) :
    LogsFirst (Script.print .output text >>= f) := by
  have hprint : AsksOnly IsUntold (Script.print .output text) := .write trivial (.done _)
  exact .behind hprint fun _ => hf

theorem logsFirst_message (text : Text) (value : α) :
    LogsFirst (Script.print .errors text >>= fun _ => pure value) :=
  fun _ => .noEvent rfl

end Scripts

section Programs

open Program

theorem logsFirst_fail (what : Text) (causes : List Text) : LogsFirst (fail what causes) :=
  logsFirst_message _ _

theorem logsFirst_printBlocks (readings : List Listing.Reading) :
    LogsFirst (printBlocks readings) := by
  induction readings with
  | nil => exact logsFirst_pure _
  | cons reading rest ih =>
      match reading with
      | .skipped line label => exact .behindQuiet (quiet_log _) fun _ => ih
      | .item (.error e) => exact logsFirst_fail _ _
      | .item (.ok uniform) => exact .behindOutput ih

theorem quiet_logSkipped (readings : List Listing.Reading) :
    AsksOnly Question.IsQuiet (logSkipped readings) := by
  induction readings with
  | nil => exact .done _
  | cons reading rest ih =>
      cases reading with
      | skipped line label => exact (quiet_log _).bind fun _ => ih
      | item item => exact ih

theorem logsFirst_printArray (items : List Listing.Item) : LogsFirst (printArray items) := by
  unfold printArray
  split
  · exact logsFirst_fail _ _
  · exact .behindOutput (logsFirst_pure _)

theorem logsFirst_snippets (options : CommandLine.SnippetsOptions) :
    LogsFirst (snippets options) := by
  have hread : AsksOnly IsUntold (.readFile options.input .done) :=
    .readFile trivial fun _ => .done _
  refine LogsFirst.behind (f := fun bytes => _) hread fun bytes => ?_
  split
  · exact logsFirst_fail _ _
  · dsimp only
    split
    · exact .behindQuiet (quiet_logSkipped _) fun _ => logsFirst_printArray _
    · exact logsFirst_printBlocks _

theorem logsFirst_stop (i : Invocation) (stop : CommandLine.Stop) :
    LogsFirst (Program.stop i stop) := by
  cases stop with
  | help scope => exact .behindOutput (logsFirst_pure _)
  | version => exact .behindOutput (logsFirst_pure _)
  | error e => exact logsFirst_message _ _

/-- Where no log is asked for, nothing is logged. -/
theorem logged_of_logFilter?_eq_none {i : Invocation} (h : i.logFilter? = none)
    (subscriber : Subscriber) (logged : List Event) :
    (subscriber.journal i.environment).logged logged = [] := by
  rw [subscriber.silent i h, Journal.logged, textOfEvents_of_empty]
  rfl

variable [Archive.Decoders]

theorem logsFirst_installInto (styling : Terminal.Styling) (p : Platform) (base : Text)
    (directory : Path) : LogsFirst (installInto styling p base directory) := by
  refine .behindOutput (.behindQuiet (quiet_forPlatform p base directory) fun result => ?_)
  cases result with
  | error error => exact logsFirst_fail _ _
  | ok path => exact .behindOutput (.behindOutput (logsFirst_pure _))

theorem logsFirst_setupFor (i : Invocation) (options : CommandLine.SetupOptions) (p : Platform) :
    LogsFirst (setupFor i options p) := by
  refine .behindQuiet (quiet_destination _) fun directory => ?_
  cases directory with
  | error failure => exact logsFirst_fail _ _
  | ok directory =>
      refine .behindQuiet (.change trivial fun _ => .done _) fun result => ?_
      cases result with
      | error failure => exact logsFirst_fail _ _
      | ok value => exact .behindQuiet (quiet_log _) fun _ => logsFirst_installInto _ _ _ _

theorem logsFirst_setup (i : Invocation) (options : CommandLine.SetupOptions) :
    LogsFirst (setup i options) := by
  have hselection : AsksOnly IsUntold (selection options.os?) := by
    unfold selection
    split
    · exact .done _
    · exact .write trivial (.readLine trivial fun _ => .done _)
  refine .behindQuiet (quiet_log _) fun _ => .behind hselection fun answer => ?_
  cases answer with
  | error failure => exact logsFirst_fail _ _
  | ok answer =>
      dsimp only
      split
      · exact logsFirst_message _ _
      · exact logsFirst_setupFor _ _ _

theorem logsFirst_script (i : Invocation) : LogsFirst i.script := by
  unfold Invocation.script
  split
  · next command _ =>
      cases command with
      | setup options => exact logsFirst_setup i options
      | snippets options => exact logsFirst_snippets options
  · exact logsFirst_stop i _

/-- What a run writes where errors are told is its log, and the messages behind it. -/
theorem told_eq (i : Invocation) (subscriber : Subscriber) (server : Http.Server) (input : Bytes)
    (files : FileSystem) :
    i.told subscriber server input files =
      (subscriber.journal i.environment).logged (events (i.notices server input files)) ++
        (i.run server input files).errors := by
  have herrors : (i.run server input files).errors = messages (i.notices server input files) :=
    errors_run _ _
  rw [herrors]
  exact (logsFirst_script i _).text_eq _

end Programs

section Samples

/-- A subscriber that writes the message of each event, where a log is asked for. -/
def lineLog : Subscriber where
  journal environment events :=
    if (Invocation.mk [] environment false).logFilter?.isSome then
      events.getLast?.elim [] fun e => e.message ++ ['\n']
    else []
  silent i h := by
    have hnone : (Invocation.mk [] i.environment false).logFilter? = none := h
    simp [hnone]

end Samples

end ShaderTools.Proofs.LoggedRuns
