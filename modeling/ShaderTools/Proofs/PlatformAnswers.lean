import ShaderTools.Proofs.EncodedTexts
import ShaderTools.Proofs.LoggedRuns
import ShaderTools.Proofs.TextPieces

/-!
Answering the question for the platform by an option, or by a line of the input. The option changes
nothing about how the other arguments are read, but for the options that an error tells of; and a
run whose arguments are read goes on in the same way from either answer, whatever it is.
-/

namespace ShaderTools.Proofs.PlatformAnswers

open ShaderTools.CommandLine
open ShaderTools.Proofs.EncodedTexts
open ShaderTools.Proofs.LoggedRuns
open ShaderTools.Proofs.ScriptQuestions
open ShaderTools.Proofs.TextPieces

section Readings

/-- Whether an argument is the option for the platform, with a value behind an equals sign or
not. -/
def namesPlatform : Text → Bool
  | '-' :: '-' :: t => (Text.cut '=' t).1 = Flag.os.name
  | _ => false

/-- An error that tells of one more option, given before the others. -/
def alsoGiven (f : Flag) : UsageError → UsageError
  | .unknownArgument scope argument hint? given =>
    .unknownArgument scope argument hint? (f :: given)
  | .unexpectedValue scope g value given => .unexpectedValue scope g value (f :: given)
  | e => e

/-- Results of reading that are related if there are any, and otherwise the same stop, up to the
option for the platform among those that it tells of. -/
inductive Alike {α : Type} (R : α → α → Prop) : Except Stop α → Except Stop α → Prop
  | result {a a' : α} (h : R a a') : Alike R (.ok a) (.ok a')
  | stopped (stop : Stop) : Alike R (.error stop) (.error stop)
  | told (e : UsageError) : Alike R (.error (.error e)) (.error (.error (alsoGiven .os e)))

theorem Alike.bind {α β : Type} {R : α → α → Prop} {Q : β → β → Prop} {x x' : Except Stop α}
    {f f' : α → Except Stop β} (h : Alike R x x') (hf : ∀ a a', R a a' → Alike Q (f a) (f' a')) :
    Alike Q (x >>= f) (x' >>= f') := by
  cases h with
  | result h => exact hf _ _ h
  | stopped stop => exact .stopped stop
  | told e => exact .told e

/-- The second reading has accepted the option for the platform before everything that the first
one has read. -/
structure Leads (s : Text) (r r' : Reading) : Prop where
  given : r'.given = (.os, s) :: r.given
  pending : r'.pending? = r.pending?
  notGiven : .os ∉ r.flags
  notPending : ∀ f value?, r.pending? = some (f, value?) → f ≠ .os

/-- The second reading has the option for the platform in front, perhaps not yet accepted. -/
inductive Adds (s : Text) : Reading → Reading → Prop
  | first : Adds s .start ⟨[], some (.os, some s)⟩
  | later {r r' : Reading} (h : Leads s r r') : Adds s r r'

/-- The second reading has accepted the option for the platform, and nothing is pending. -/
def Settled (s : Text) (r r' : Reading) : Prop := Leads s r r' ∧ r.pending? = none

variable {s : Text} {r r' : Reading} {f : Flag}

theorem Leads.flags (h : Leads s r r') : r'.flags = .os :: r.flags := by
  simp [Reading.flags, h.given]

theorem leads_start (s : Text) : Leads s .start ⟨[(.os, s)], none⟩ :=
  ⟨rfl, rfl, by simp [Reading.flags, Reading.start], by simp [Reading.start]⟩

theorem Leads.accept (h : Leads s r r') (hf : f ≠ .os) (value : Text) :
    Alike (Settled s) ((r.accept .setup f value).mapError .error)
      ((r'.accept .setup f value).mapError .error) := by
  have hmem : f ∈ r'.flags ↔ f ∈ r.flags := by simp [h.flags, hf]
  unfold Reading.accept
  rw [if_congr hmem rfl rfl]
  split
  · exact .stopped _
  · split
    · exact .stopped _
    · refine .result ⟨⟨by simp [h.given], rfl, ?_, by simp⟩, rfl⟩
      have hnotGiven : .os ∉ r.given.map Prod.fst := h.notGiven
      simp only [Reading.flags, List.map_append, List.mem_append, hnotGiven, List.map_cons,
        List.map_nil, List.mem_singleton, false_or]
      exact hf.symm

theorem Leads.settle (h : Leads s r r') :
    Alike (Settled s) ((r.settle .setup).mapError .error) ((r'.settle .setup).mapError .error) := by
  unfold Reading.settle
  rw [h.pending]
  cases hpending : r.pending? with
  | none => exact .result ⟨h, hpending⟩
  | some pending =>
      obtain ⟨f, value?⟩ := pending
      have hf : f ≠ .os := h.notPending f value? hpending
      cases value? with
      | none => exact .stopped _
      | some value => exact h.accept hf value

theorem settle_first (s : Text) :
    Reading.settle .setup ⟨[], some (.os, some s)⟩ = .ok ⟨[(.os, s)], none⟩ := by
  simp [Reading.settle, Reading.accept, Reading.flags, Flag.mayBeEmpty]

theorem Adds.settle (h : Adds s r r') :
    Alike (Settled s) ((r.settle .setup).mapError .error) ((r'.settle .setup).mapError .error) := by
  cases h with
  | first =>
      have hsettled : Settled s .start ⟨[(.os, s)], none⟩ := ⟨leads_start s, rfl⟩
      rw [settle_first]
      exact .result hsettled
  | later h => exact h.settle

theorem Alike.mono {α : Type} {R Q : α → α → Prop} {x x' : Except Stop α} (h : Alike R x x')
    (hRQ : ∀ a a', R a a' → Q a a') : Alike Q x x' := by
  cases h with
  | result h => exact .result (hRQ _ _ h)
  | stopped stop => exact .stopped stop
  | told e => exact .told e

theorem Adds.awaiting? (h : Adds s r r') : r'.awaiting? = r.awaiting? := by
  cases h with
  | first => rfl
  | later h => simp only [Reading.awaiting?, h.pending]

theorem Adds.ne_os_of_awaiting? (h : Adds s r r') (hawaiting : r.awaiting? = some f) :
    f ≠ .os := by
  cases h with
  | first => simp [Reading.awaiting?, Reading.start] at hawaiting
  | later h =>
      unfold Reading.awaiting? at hawaiting
      split at hawaiting
      · next g hpending =>
          obtain rfl : g = f := by simpa using hawaiting
          exact h.notPending _ _ hpending
      · simp at hawaiting

theorem Adds.supply (h : Adds s r r') (hawaiting : r.awaiting? = some f) (value : Text) :
    Adds s (r.supply f value) (r'.supply f value) := by
  have hf : f ≠ .os := h.ne_os_of_awaiting? hawaiting
  cases h with
  | first => simp [Reading.awaiting?, Reading.start] at hawaiting
  | later h =>
      refine .later ⟨h.given, rfl, h.notGiven, ?_⟩
      rintro g value? hg
      obtain ⟨rfl, -⟩ : f = g ∧ _ := by simpa [Reading.supply] using hg
      exact hf

theorem Adds.readFlag (h : Adds s r r') (hf : f ≠ .os) (value? : Option Text) :
    Alike (Adds s) (readFlag .setup r f value?) (readFlag .setup r' f value?) := by
  have haccept : ∀ value, Alike (Adds s)
      ((r.settle .setup).mapError Stop.error >>= fun settled =>
        (settled.accept .setup f value).mapError Stop.error)
      ((r'.settle .setup).mapError Stop.error >>= fun settled =>
        (settled.accept .setup f value).mapError Stop.error) :=
    fun value => h.settle.bind fun _ _ hsettled =>
      (hsettled.1.accept hf value).mono fun _ _ hnow => .later hnow.1
  have hawait : Alike (Adds s)
      ((r.settle .setup).mapError Stop.error >>= fun settled =>
        .ok { settled with pending? := some (f, none) })
      ((r'.settle .setup).mapError Stop.error >>= fun settled =>
        .ok { settled with pending? := some (f, none) }) :=
    h.settle.bind fun _ _ hsettled =>
      .result (.later ⟨hsettled.1.given, rfl, hsettled.1.notGiven, by rintro g v hg; simp_all⟩)
  have hrefuse : ∀ value, Alike (Adds s)
      (.error (.error (.unexpectedValue .setup f value r.flags)))
      (.error (.error (.unexpectedValue .setup f value r'.flags))) := by
    intro value
    cases h with
    | first => exact .stopped _
    | later h => rw [h.flags]; exact .told _
  have hstop : ∀ stop, Alike (Adds s)
      ((r.settle .setup).mapError Stop.error >>= fun _ => .error stop)
      ((r'.settle .setup).mapError Stop.error >>= fun _ => .error stop) :=
    fun stop => h.settle.bind fun _ _ _ => .stopped stop
  cases f with
  | os => exact absurd rfl hf
  | destination | releaseUrl | input =>
      cases value? with
      | some value => exact haccept value
      | none => exact hawait
  | json =>
      cases value? with
      | some value => exact hrefuse value
      | none => exact haccept []
  | help =>
      cases value? with
      | some value => exact hrefuse value
      | none => exact hstop (.help .setup)
  | version =>
      cases value? with
      | some value => exact hrefuse value
      | none => exact hstop .version

theorem Adds.unknownArgument (h : Adds s r r') (argument : Text) (hint? : Option Hint) :
    Alike (Adds s)
      (.error (.error (.unknownArgument .setup argument hint? (r.settledFlags .setup))))
      (.error (.error (.unknownArgument .setup argument hint? (r'.settledFlags .setup)))) := by
  have hflags : r'.settledFlags .setup = .os :: r.settledFlags .setup := by
    cases h with
    | first =>
        unfold Reading.settledFlags
        rw [settle_first]
        rfl
    | later h =>
        have hsettle := h.settle
        unfold Reading.settledFlags
        cases hfound : r.settle .setup <;> cases hfound' : r'.settle .setup <;>
          rw [hfound, hfound'] at hsettle
        · exact h.flags
        · exact nomatch hsettle
        · exact nomatch hsettle
        · cases hsettle with
          | result h => exact h.1.flags
  rw [hflags]
  exact .told _

theorem Adds.readLong (h : Adds s r r') {t : Text} (ht : (Text.cut '=' t).1 ≠ Flag.os.name)
    (behind : List Text) :
    Alike (Adds s) (readLong .setup r t behind) (readLong .setup r' t behind) := by
  unfold CommandLine.readLong
  dsimp only
  split
  · next f hfound =>
      have hf : f ≠ .os := by
        rintro rfl
        have hname := List.find?_some hfound
        simp only [decide_eq_true_eq] at hname
        exact ht hname.symm
      exact h.readFlag hf _
  · exact h.unknownArgument _ _

theorem Adds.readShort (h : Adds s r r') (letter : Char) (t : Text) :
    Alike (Adds s) (readShort .setup r letter t) (readShort .setup r' letter t) := by
  unfold CommandLine.readShort
  split
  · next f hfound =>
      have hf : f ≠ .os := by
        rintro rfl
        have hletter := List.find?_some hfound
        simp [Flag.letter?] at hletter
      split <;> exact h.readFlag hf _
  · exact .stopped _

/-- Reading other arguments behind the option for the platform goes as it goes without it. -/
theorem Adds.readArguments (h : Adds s r r') {rest : List Text}
    (hrest : ∀ argument ∈ rest, namesPlatform argument = false) :
    Alike (Settled s) (readArguments .setup r rest) (readArguments .setup r' rest) := by
  induction rest generalizing r r' with
  | nil => exact h.settle
  | cons argument rest ih =>
      have hbehind : ∀ argument ∈ rest, namesPlatform argument = false :=
        fun other hother => hrest other (List.mem_cons_of_mem _ hother)
      unfold CommandLine.readArguments
      rw [h.awaiting?]
      split
      · next value f hanything =>
          have hawaiting : r.awaiting? = some f := (Option.filter_eq_some_iff.mp hanything).1
          exact ih (h.supply hawaiting _) hbehind
      · split
        · exact h.settle
        · exact .stopped _
      · next t ht hanything =>
          have hname : (Text.cut '=' t).1 ≠ Flag.os.name := by
            simpa [namesPlatform] using hrest _ List.mem_cons_self
          exact (h.readLong hname rest).bind fun _ _ hnow => ih hnow hbehind
      · next letter t ht hletter hanything =>
          exact (h.readShort letter t).bind fun _ _ hnow => ih hnow hbehind
      · split
        · next f hawaiting => exact ih (h.supply hawaiting _) hbehind
        · exact .stopped _

end Readings

section Commands

variable {s : Text} {r r' : Reading}

/-- Two setup commands that differ in the platform alone: the first one leaves it open. -/
def Answers (s : Text) (c c' : Command) : Prop :=
  ∃ options : SetupOptions, options.os? = none ∧ c = .setup options ∧
    c' = .setup { options with os? := some s }

theorem Leads.value?_os (h : Leads s r r') : r.value? .os = none ∧ r'.value? .os = some s := by
  refine ⟨?_, by simp [Reading.value?, h.given]⟩
  have hnone : ∀ entry ∈ r.given, entry.1 ≠ .os := by
    rintro entry hentry hos
    exact h.notGiven (List.mem_map.mpr ⟨entry, hentry, hos⟩)
  simpa [Reading.value?, List.find?_eq_none] using hnone

theorem Leads.value? (h : Leads s r r') {f : Flag} (hf : f ≠ .os) : r'.value? f = r.value? f := by
  have hos : ¬Flag.os = f := fun hos => hf hos.symm
  simp [Reading.value?, h.given, hos]

theorem Leads.setupOptions (h : Leads s r r') (environmentUrl? : Option Bytes) :
    Alike (Answers s)
      ((setupOptions environmentUrl? r).mapError Stop.error >>= fun o => .ok (.setup o))
      ((setupOptions environmentUrl? r').mapError Stop.error >>= fun o => .ok (.setup o)) := by
  obtain ⟨hnone, hsome⟩ := h.value?_os
  unfold CommandLine.setupOptions
  rw [hnone, hsome, h.value? (f := .destination) (by simp), h.value? (f := .releaseUrl) (by simp)]
  split
  · exact .result ⟨⟨none, _, _⟩, rfl, rfl, rfl⟩
  · exact .result ⟨⟨none, _, _⟩, rfl, rfl, rfl⟩
  · split
    · exact .result ⟨⟨none, _, _⟩, rfl, rfl, rfl⟩
    · exact .stopped _

/-- Arguments of the setup command are read as those of a setup, or not at all. -/
theorem read_setup (environmentUrl? : Option Bytes) (rest : List Text) :
    CommandLine.read environmentUrl? ("setup".toList :: rest) =
      readArguments .setup .start rest >>= fun r =>
        (setupOptions environmentUrl? r).mapError Stop.error >>= fun o => .ok (.setup o) := by
  have hscope : Scope.ofName? "setup".toList = some .setup := by decide
  simp only [CommandLine.read, hscope]
  rfl

/-- The option for the platform takes the next argument, whatever it looks like. -/
theorem readArguments_os (s : Text) (rest : List Text) :
    readArguments .setup .start ("--os".toList :: s :: rest) =
      readArguments .setup ⟨[], some (.os, some s)⟩ rest := by
  rfl

theorem alike_read (environmentUrl? : Option Bytes) {rest : List Text}
    (hrest : ∀ argument ∈ rest, namesPlatform argument = false) :
    Alike (Answers s) (CommandLine.read environmentUrl? ("setup".toList :: rest))
      (CommandLine.read environmentUrl? ("setup".toList :: "--os".toList :: s :: rest)) := by
  rw [read_setup, read_setup, readArguments_os]
  exact ((Adds.first (s := s)).readArguments hrest).bind fun _ _ h =>
    h.1.setupOptions environmentUrl?

end Commands

section Runs

variable {i : Invocation} {options : SetupOptions} {s line : Text} {w : World}

/-- An input that starts with a text as a line, whether that line is ended or the input is. -/
def StartsWithLine (s : Text) (input : Bytes) : Prop :=
  input = Text.Utf8.encode s ∨ ∃ rest, input = Text.Utf8.encode s ++ 0x0a :: rest

/-- The end of its line does not count for the platform that a text selects. -/
theorem ofText_firstLine {input : Bytes} (hs : '\n' ∉ s) (hinput : StartsWithLine s input) :
    ∃ line, FileSystem.textOfBytes (Bytes.firstLine input) = .ok line ∧
      Platform.ofText line = Platform.ofText s := by
  have hbytes : 0x0a ∉ Text.Utf8.encode s := lineFeed_notMem_encode hs
  obtain rfl | ⟨rest, rfl⟩ := hinput
  · refine ⟨s, ?_, rfl⟩
    rw [firstLine_eq_self hbytes, FileSystem.textOfBytes, decode?_encode]
  · refine ⟨s ++ ['\n'], ?_, ?_⟩
    · have hline : Text.Utf8.encode s ++ [0x0a] = Text.Utf8.encode (s ++ ['\n']) := by
        rw [encode_append]
        rfl
      rw [firstLine_append_lineFeed hbytes, hline, FileSystem.textOfBytes, decode?_encode]
    · rw [Platform.ofText, Platform.ofText, trim_concat (by decide)]

/-- The setup command with some arguments. -/
def settingUp (i : Invocation) (arguments : List Text) : Invocation :=
  { i with arguments := "setup".toList :: arguments }

variable [Archive.Decoders]

/-- What the setup command does with an answer. -/
def goesOn (i : Invocation) (options : SetupOptions) (answer : Text) : Script Nat :=
  match Platform.ofText answer with
  | .error e => do
    Program.tell i.styling .errors .error e.message
    return 1
  | .ok p => Program.setupFor i options p

theorem setup_of_os (hos : options.os? = some s) :
    Program.setup i options = Script.log Program.begun >>= fun _ => goesOn i options s := by
  unfold Program.setup
  rw [hos]
  rfl

theorem setup_of_line (hos : options.os? = none)
    (hline : FileSystem.textOfBytes (Bytes.firstLine w.input) = .ok line) :
    (Program.setup i options).run w =
        (goesOn i options line).run (w.write .output Platform.menu).dropLine ∧
      (Program.setup i options).notices w = .event Program.begun ::
        (goesOn i options line).notices (w.write .output Platform.menu).dropLine := by
  have hselection : (Program.selection none).run w =
      (.ok line, (w.write .output Platform.menu).dropLine) := by
    rw [← hline]
    rfl
  have hnothing : (Program.selection none).notices w = [] := rfl
  unfold Program.setup
  rw [hos]
  simp only [Script.run_bind, Script.notices_bind, Script.run_log, Script.notices_log, hselection,
    hnothing]
  exact ⟨rfl, rfl⟩

theorem unprompted_goesOn (i : Invocation) (options : SetupOptions) (answer : Text) :
    AsksOnly Question.IsUnprompted (goesOn i options answer) := by
  unfold goesOn
  split
  · exact (unprompted_tell _ _ _ _).bind fun _ => .done _
  · exact unprompted_setupFor _ _ _

theorem script_settingUp (i : Invocation) (arguments : List Text) :
    (settingUp i arguments).script =
      match CommandLine.read i.releaseUrl? ("setup".toList :: arguments) with
      | .ok command => Program.perform (settingUp i arguments) command
      | .error stop => Program.stop (settingUp i arguments) stop :=
  rfl

/-- A setup goes on in the same way from its option and from a line of the input, and gives notice
of the same. -/
theorem ahead_setup (i : Invocation) (arguments arguments' : List Text) (server : Http.Server)
    (files : FileSystem) (input typed : Bytes) (hos : options.os? = none) (hs : '\n' ∉ s)
    (htyped : StartsWithLine s typed) :
    let flagged := Program.setup (settingUp i arguments') { options with os? := some s }
    let prompted := Program.setup (settingUp i arguments) options
    let w : World := ⟨server, files, input, [], [], []⟩
    let w' : World := ⟨server, files, typed, [], [], []⟩
    (prompted.run w').1 = (flagged.run w).1 ∧ prompted.notices w' = flagged.notices w ∧
      Ahead Platform.menu [] (flagged.run w).2 (prompted.run w').2 := by
  obtain ⟨line, hline, hofText⟩ := ofText_firstLine hs htyped
  have hgoesOn : goesOn (settingUp i arguments) options line =
      goesOn (settingUp i arguments') { options with os? := some s } s := by
    unfold goesOn
    rw [hofText]
    rfl
  intro flagged prompted w w'
  have hflagged : flagged = _ := setup_of_os rfl
  obtain ⟨hrun, hnotices⟩ : prompted.run w' = _ ∧ prompted.notices w' = _ :=
    setup_of_line hos hline
  have hunprompted := unprompted_goesOn (settingUp i arguments') { options with os? := some s } s
  have hahead : Ahead Platform.menu [] w (w'.write .output Platform.menu).dropLine :=
    ⟨rfl, rfl, rfl, rfl, rfl⟩
  rw [hrun, hnotices, hflagged, hgoesOn, Script.run_bind, Script.notices_bind, Script.run_log,
    Script.notices_log, hahead.notices hunprompted]
  obtain ⟨hexit, hafter⟩ := hahead.run hunprompted
  exact ⟨hexit, rfl, hafter⟩

/-- A setup that asks for its platform is told it on a line of the input as well as by the option:
if the other arguments are read, everything is the same but for the question, which is written
first. They give notice of the same, so that their logs are the same, too, if the same subscriber,
with the same clock, keeps them. Otherwise nobody is asked, and only an error can differ, where it
tells of the options that were given. -/
theorem run_prompted (i : Invocation) (subscriber : Subscriber) (server : Http.Server)
    (files : FileSystem) (input typed : Bytes) {rest : List Text} (hs : '\n' ∉ s)
    (hrest : ∀ argument ∈ rest, namesPlatform argument = false) (htyped : StartsWithLine s typed) :
    let flagging := settingUp i ("--os".toList :: s :: rest)
    let prompting := settingUp i rest
    let flagged := flagging.run server input files
    let prompted := prompting.run server typed files
    let flaggedErrors := flagging.told subscriber server input files
    let promptedErrors := prompting.told subscriber server typed files
    prompted.exit = flagged.exit ∧ prompted.requests = flagged.requests ∧
      prompted.files = flagged.files ∧
      (∀ command, CommandLine.read i.releaseUrl? ("setup".toList :: rest) = .ok command →
        prompting.notices server typed files = flagging.notices server input files ∧
          promptedErrors = flaggedErrors ∧ prompted.output = Platform.menu ++ flagged.output) ∧
      ∀ stop, CommandLine.read i.releaseUrl? ("setup".toList :: rest) = .error stop →
        prompted.output = flagged.output ∧
          (promptedErrors = flaggedErrors ∨
            ∃ e opened, stop = .error e ∧ opened = subscriber.journal i.environment [] ∧
              promptedErrors = opened ++ e.report i.releaseUrl? ∧
              flaggedErrors = opened ++ (alsoGiven .os e).report i.releaseUrl?) := by
  intro flagging prompting flagged prompted flaggedErrors promptedErrors
  have halike := alike_read (s := s) i.releaseUrl? hrest
  generalize hread : CommandLine.read i.releaseUrl? ("setup".toList :: rest) = found at halike
  generalize hread' : CommandLine.read i.releaseUrl?
    ("setup".toList :: "--os".toList :: s :: rest) = found' at halike
  have hprompted := script_settingUp i rest
  have hflagged := script_settingUp i ("--os".toList :: s :: rest)
  rw [hread] at hprompted
  rw [hread'] at hflagged
  simp only [promptedErrors, flaggedErrors, prompted, flagged, prompting, flagging,
    Invocation.told, Invocation.notices, Invocation.run, hprompted, hflagged]
  cases halike with
  | result h =>
      obtain ⟨options, hos, rfl, rfl⟩ := h
      obtain ⟨hexit, hnotices, -, hfiles, hrequests, houtput, -⟩ :=
        ahead_setup i rest ("--os".toList :: s :: rest) server files input typed hos hs htyped
      have htold := congrArg (subscriber.journal i.environment).text hnotices
      exact ⟨hexit, hrequests, hfiles, fun _ _ => ⟨hnotices, htold, houtput⟩, by simp⟩
  | stopped stop =>
      cases stop <;> exact ⟨rfl, rfl, rfl, by simp, fun _ _ => ⟨rfl, .inl rfl⟩⟩
  | told e =>
      refine ⟨rfl, rfl, rfl, by simp, fun stop hstop => ⟨rfl, .inr ⟨e, _, ?_, rfl, ?_, ?_⟩⟩⟩
      · exact (Except.error.inj hstop).symm
      · exact text_message _ _
      · exact text_message _ _

end Runs

section Samples

attribute [local instance] Archive.Decoders.absent

/-- An invocation in an environment that asks for a log. -/
def logging : Invocation :=
  ⟨[], [(Invocation.logVariable, Text.Utf8.encode "debug".toList)], false⟩

theorem run_prompted_linux :
    let flagging := settingUp logging ["--os".toList, "1".toList, "--dest".toList, "/d".toList]
    let prompting := settingUp logging ["--dest".toList, "/d".toList]
    let typed := Text.Utf8.encode "1\nmore".toList
    let flagged := flagging.run (fun _ => .error .refused) [] ⟨[], []⟩
    let prompted := prompting.run (fun _ => .error .refused) typed ⟨[], []⟩
    prompted.exit = flagged.exit ∧ prompted.requests = flagged.requests ∧
      prompted.files = flagged.files ∧
      prompting.told lineLog (fun _ => .error .refused) typed ⟨[], []⟩ =
        flagging.told lineLog (fun _ => .error .refused) [] ⟨[], []⟩ ∧
      prompted.output = Platform.menu ++ flagged.output := by
  have hline : StartsWithLine "1".toList (Text.Utf8.encode "1\nmore".toList) :=
    .inr ⟨Text.Utf8.encode "more".toList, by decide⟩
  have hrest : ∀ argument ∈ ["--dest".toList, "/d".toList], namesPlatform argument = false := by
    decide
  have hread : CommandLine.read logging.releaseUrl?
      ["setup".toList, "--dest".toList, "/d".toList] =
        .ok (.setup ⟨none, some "/d".toList, none⟩) := by decide
  obtain ⟨hexit, hrequests, hfiles, haccepted, -⟩ :=
    run_prompted logging lineLog (fun _ => .error .refused) ⟨[], []⟩ [] _ (by decide)
      hrest hline
  exact ⟨hexit, hrequests, hfiles, (haccepted _ hread).2⟩

/-- An invocation in an environment with a value for the release address, if any. -/
def invocationIn (value? : Option Bytes) : Invocation :=
  ⟨[], value?.toList.map (Release.addressVariable, ·), false⟩

/-- A setup for Linux by its option, and one that is told of it on a line of the input. -/
def linuxRuns (value? : Option Bytes) (rest : List Text) : Run × Run :=
  ((settingUp (invocationIn value?) ("--os".toList :: "1".toList :: rest)).run
      (fun _ => .error .refused) [] ⟨[], []⟩,
    (settingUp (invocationIn value?) rest).run
      (fun _ => .error .refused) (Text.Utf8.encode "1\n".toList) ⟨[], []⟩)

/-- Nobody is asked for the platform if the release address is not UTF-8, or if the directory is
empty. -/
theorem run_prompted_refused :
    (linuxRuns (some [255]) []).2.output ≠
        Platform.menu ++ (linuxRuns (some [255]) []).1.output ∧
      (linuxRuns none ["--dest".toList, []]).2.output ≠
        Platform.menu ++ (linuxRuns none ["--dest".toList, []]).1.output := by
  decide +kernel

end Samples

end ShaderTools.Proofs.PlatformAnswers
