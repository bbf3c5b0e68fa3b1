import ShaderTools.Proofs.PlainFailures
import ShaderTools.Proofs.TerminalRuns

/-!
What a setup writes where nothing that it is given holds an escape character. A run into a pipe
writes plain messages on both channels, so it is plain where its log is. Beside a terminal, what is
written for errors is the same as in a run into a pipe, but where a platform is refused: that is
told in the style of the output.
-/

namespace ShaderTools.Proofs.PlainStreams

open ShaderTools.CommandLine
open ShaderTools.FileSystem
open ShaderTools.Proofs.ColorSequences
open ShaderTools.Proofs.DownloadSource
open ShaderTools.Proofs.FilledOptions
open ShaderTools.Proofs.LoggedRuns
open ShaderTools.Proofs.PlainFailures
open ShaderTools.Proofs.PlainTexts
open ShaderTools.Proofs.PlatformAnswers
open ShaderTools.Proofs.ScriptQuestions
open ShaderTools.Proofs.SetupEndings
open ShaderTools.Proofs.StepRuns
open ShaderTools.Proofs.TerminalRuns

section Options

variable {i : Invocation} {options : SetupOptions} {files : FileSystem} {directory : Path}
  {base : Text}

/-- No argument, no text of the environment and no working directory holds an escape character. -/
structure GivenPlainly (i : Invocation) (files : FileSystem) : Prop where
  arguments : ∀ argument ∈ i.arguments, Plain argument
  environment : ∀ entry ∈ i.environment, ∀ t, Text.Utf8.decode? entry.2 = some t → Plain t
  workingPath : Plain files.workingPath

theorem plain_tidy (h : Plain base) : Plain (Release.tidy base) := by
  have htrim : Plain (Text.trim base) :=
    (h.of_subset (List.dropWhile_subset _)).of_subset (List.rdropWhile_prefix _ _).subset
  exact htrim.of_subset (List.rdropWhile_prefix _ _).subset

theorem plain_address {override? : Option Text} (h : ∀ url ∈ override?, Plain url) :
    Plain (Release.address override?) := by
  apply plain_tidy
  cases hgiven : override?.filter fun t => !t.trim.isEmpty with
  | none => exact plain_literal (by decide)
  | some url => exact h url (Option.eq_some_of_filter_eq_some hgiven)

theorem GivenPlainly.url (h : GivenPlainly i files) (bytes : Bytes) (url : Text)
    (hbytes : i.releaseUrl? = some bytes) (hurl : Text.Utf8.decode? bytes = some url) :
    Plain url := by
  obtain ⟨entry, hentry, rfl⟩ := Option.map_eq_some_iff.mp hbytes
  exact h.environment entry (List.mem_of_find?_eq_some hentry) url hurl

theorem GivenPlainly.values (h : GivenPlainly i files)
    (hread : CommandLine.read i.releaseUrl? i.arguments = .ok (.setup options)) :
    (∀ path ∈ options.destination?, Plain path) ∧ ∀ url ∈ options.releaseUrl?, Plain url := by
  refine values_of_read hread ?_ h.url
  exact fun argument hargument value hvalue =>
    (h.arguments argument hargument).of_subset hvalue.subset

theorem GivenPlainly.directoryAsked (h : GivenPlainly i files)
    (hread : CommandLine.read i.releaseUrl? i.arguments = .ok (.setup options))
    (hasked : directoryAsked options files = .ok directory) : Plain directory := by
  rcases directoryAsked_cases hasked with hgiven | rfl
  · exact (h.values hread).1 directory hgiven
  · exact h.workingPath

theorem GivenPlainly.baseUrl (h : GivenPlainly i files)
    (hread : CommandLine.read i.releaseUrl? i.arguments = .ok (.setup options)) :
    Plain (Program.baseUrl options.releaseUrl? i.releaseUrl?) := by
  unfold Program.baseUrl
  split
  · next url hurl => exact plain_tidy ((h.values hread).2 url hurl)
  · refine plain_address fun url hurl => ?_
    obtain ⟨bytes, hbytes, hdecoded⟩ := Option.bind_eq_some_iff.mp hurl
    exact h.url bytes url hbytes hdecoded

end Options

section Runs

variable {i : Invocation} {options : SetupOptions} {server : Http.Server} {input : Bytes}
  {files made : FileSystem} {directory : Path} {p : Platform}

/-- The messages that a run has written hold no escape character. -/
structure WritesPlainly (run : Run) : Prop where
  output : Plain run.output
  errors : Plain run.errors

theorem plain_question (options : SetupOptions) : Plain (question options) := by
  unfold question
  split <;> decide

theorem plain_announcement : Plain announcement := plain_literal (by decide)

theorem plain_advice {path : Path} (h : Plain path) (p : Platform) : Plain (advice p path) := by
  have hname : Plain p.fileName := by cases p <;> decide
  simp only [advice, plain_append]
  exact ⟨⟨⟨⟨by decide, hname⟩, plain_literal (by decide)⟩, plain_settingEntry h⟩, by decide⟩

theorem workingPath_of_makeDirectories {q : Path} (h : makeDirectories q files = .ok () made) :
    made.workingPath = files.workingPath := by
  have hdirectory := (ends_workingDirectory files.workingDirectory (.makeDirectories q)).ended rfl h
  rw [workingPath, workingPath, hdirectory]

theorem plain_directoryAsked {failure : Failure}
    (h : directoryAsked options files = .error failure) : Plain failure.message := by
  unfold directoryAsked at h
  split at h
  · exact nomatch h
  · exact plain_of_isNamed (refusesNamed_currentDirectory files failure h)

theorem plain_answer {failure : Failure} (h : answer options input = .error failure) :
    Plain failure.message := by
  unfold answer at h
  split at h
  · exact nomatch h
  · unfold textOfBytes at h
    split at h
    · exact nomatch h
    · obtain rfl := Except.error.inj h
      exact plain_literal (by decide)

/-- A platform was asked for that there is none of. -/
def Refused (options : SetupOptions) (input : Bytes) : Prop :=
  ∃ given error, answer options input = .ok given ∧ Platform.ofText given = .error error

/-- A status line starts with a sequence unless it is written plainly. -/
theorem not_plain_statusLine {styling : Terminal.Styling} (h : styling ≠ .plain)
    (severity : Terminal.Severity) (message : Text) :
    ¬Plain (Terminal.statusLine styling severity message) := by
  have hstarts : '\x1b' ∈ Terminal.paint styling severity.color severity.icon := by
    cases styling with
    | plain => exact absurd rfl h
    | colored => exact List.mem_cons_self
    | colorless => exact List.mem_cons_self
  exact fun hplain => hplain (List.mem_append_left _ hstarts)

theorem styling_onTerminal (i : Invocation) : (onTerminal i).styling ≠ .plain := by
  unfold Invocation.styling onTerminal
  split
  · next hterminal => simp at hterminal
  · split <;> simp

variable [Archive.Decoders]

theorem writesPlainly_installInto (hdecoders : DecodesPlainly) (hplain : i.styling = .plain)
    (hbase : Plain (Program.baseUrl options.releaseUrl? i.releaseUrl?))
    (hdirectory : Plain directory) (hworking : Plain made.workingPath) :
    WritesPlainly (runOf ((Program.installInto i.styling p
      (Program.baseUrl options.releaseUrl? i.releaseUrl?) directory).run
        { asked options server input files with files := made })) := by
  obtain ⟨-, -, -, houtput, herrors⟩ :=
    run_forPlatform_announced i options server input files made directory p
  have hwritten : Plain (question options ++ announcement) :=
    plain_append.mpr ⟨plain_question options, plain_announcement⟩
  rw [run_installInto hplain]
  simp only
  generalize ((Setup.forPlatform p _ _).run (announced options server input files made)).2 = now
    at houtput herrors ⊢
  cases hattempt : (attempt i options server directory made p).1 with
  | error error =>
      have hname : Plain p.fileName := by cases p <;> decide
      have hwhat : Plain ("Failed to install ".toList ++ p.fileName) :=
        plain_append.mpr ⟨plain_literal (by decide), hname⟩
      have hreport := plain_report hwhat (tellsPlainly_forPlatform hdecoders hbase hattempt)
      constructor
      · simpa only [runOf, World.write, houtput] using hwritten
      · simpa only [runOf, World.write, herrors, List.nil_append] using hreport
  | ok path =>
      have hpath := plain_forPlatform hdirectory hworking hattempt
      constructor
      · simp only [runOf, World.write, houtput]
        exact plain_append.mpr ⟨hwritten, plain_advice hpath p⟩
      · simp only [runOf, World.write, herrors]
        exact plain_nil

theorem writesPlainly_setupFor (hdecoders : DecodesPlainly) (hplain : i.styling = .plain)
    (hbase : Plain (Program.baseUrl options.releaseUrl? i.releaseUrl?))
    (hdirectory : ∀ directory, directoryAsked options files = .ok directory → Plain directory)
    (hworking : Plain files.workingPath) :
    WritesPlainly (runOf ((Program.setupFor i options p).run
      (asked options server input files))) := by
  have hfiles : (asked options server input files).files = files := rfl
  rw [run_setupFor, hfiles]
  cases hasked : directoryAsked options files with
  | error failure =>
      have hcauses : ∀ cause ∈ [failure.message], Plain cause := by
        simpa using plain_directoryAsked hasked
      exact ⟨plain_question options, plain_report (plain_literal (by decide)) hcauses⟩
  | ok directory =>
      simp only
      cases hmake : makeDirectories directory files with
      | ok value made =>
          have hmade := workingPath_of_makeDirectories hmake
          exact writesPlainly_installInto hdecoders hplain hbase (hdirectory directory hasked)
            (hmade ▸ hworking)
      | error failure after =>
          have hfailure : Plain failure.message :=
            plain_of_isNamed (actsNamed_makeDirectories _ files failure after hmake)
          have hwhat : Plain ("Failed to create ".toList ++ directory) :=
            plain_append.mpr ⟨plain_literal (by decide), hdirectory directory hasked⟩
          have hcauses : ∀ cause ∈ [failure.message], Plain cause := by simpa using hfailure
          exact ⟨plain_question options, plain_report hwhat hcauses⟩

/-- Into a pipe a setup writes nothing but plain messages. -/
theorem writesPlainly_intoPipe (hdecoders : DecodesPlainly) (h : GivenPlainly i files)
    (hread : CommandLine.read i.releaseUrl? i.arguments = .ok (.setup options)) :
    WritesPlainly ((intoPipe i).run server input files) := by
  have hplain : (intoPipe i).styling = .plain := rfl
  rw [@run_of_read _ (intoPipe i) _ hread, Program.perform, run_setup]
  cases hanswer : answer options input with
  | error failure =>
      have hreport : Plain (Terminal.report "Failed to read platform selection".toList
          [failure.message]) :=
        plain_report (plain_literal (by decide)) (by simpa using plain_answer hanswer)
      exact ⟨plain_question options, hreport⟩
  | ok given =>
      cases hgiven : Platform.ofText given with
      | error e =>
          simp only [goesOn, hgiven, hplain, Script.run_bind, Program.tell, Script.run_print,
            Script.run_pure, refusal_eq]
          exact ⟨plain_question options, plain_literal (by decide)⟩
      | ok p =>
          simp only [goesOn, hgiven]
          exact writesPlainly_setupFor hdecoders hplain (h.baseUrl hread)
            (fun _ => h.directoryAsked hread) h.workingPath

theorem errors_onTerminal
    (hread : CommandLine.read i.releaseUrl? i.arguments = .ok (.setup options))
    (h : ¬Refused options input) :
    ((onTerminal i).run server input files).errors =
      ((intoPipe i).run server input files).errors := by
  have hstart :
      Beside Eq (asked options server input files) (asked options server input files) := by
    have hquestion : Closed (question options) := by
      unfold question
      split <;> decide
    exact ⟨rfl, rfl, rfl, rfl, hquestion.fades, rfl⟩
  rw [@run_of_read _ (intoPipe i) _ hread, @run_of_read _ (onTerminal i) _ hread, Program.perform,
    Program.perform, run_setup, run_setup]
  cases hanswer : answer options input with
  | error failure => rfl
  | ok given =>
      cases hgiven : Platform.ofText given with
      | error error => exact absurd ⟨given, error, hanswer, hgiven⟩ h
      | ok p =>
          simp only [goesOn, hgiven]
          -- From here on no style is asked for on the channel for errors.
          have hsetup : Redrawn Eq (Program.setupFor (intoPipe i) options p)
              (Program.setupFor (onTerminal i) options p) :=
            @redrawn_setupFor Eq (fun _ _ _ => rfl) _ (intoPipe i) (onTerminal i) rfl rfl options p
          exact (hsetup.run (fun _ _ _ _ => congrArg₂ _) hstart).2.errors.symm

theorem not_plain_onTerminal
    (hread : CommandLine.read i.releaseUrl? i.arguments = .ok (.setup options))
    (h : Refused options input) : ¬Plain ((onTerminal i).run server input files).errors := by
  obtain ⟨given, error, hanswer, hgiven⟩ := h
  rw [@run_of_read _ (onTerminal i) _ hread, Program.perform, run_setup]
  simp only [hanswer, goesOn, hgiven, Script.run_bind, Program.tell, Script.run_print,
    Script.run_pure]
  intro hplain
  have hline : Plain (Terminal.statusLine (onTerminal i).styling .error error.message ++ ['\n']) :=
    hplain
  exact not_plain_statusLine (styling_onTerminal i) _ _ (plain_append.mp hline).1

theorem told_onTerminal
    (hread : CommandLine.read i.releaseUrl? i.arguments = .ok (.setup options))
    (h : ¬Refused options input) (subscriber : Subscriber) :
    (onTerminal i).told subscriber server input files =
      (intoPipe i).told subscriber server input files := by
  have hevents : Log.events ((onTerminal i).notices server input files) =
      Log.events ((intoPipe i).notices server input files) :=
    (redrawn_script hread).events appends_refades (beside_start server input files)
  rw [told_eq, told_eq, hevents, errors_onTerminal hread h]
  rfl

/-- A setup that is given nothing with an escape character writes none into a pipe, unless one is
logged. Beside a terminal it writes the same for errors, and so none, unless a platform is refused.
The decoders of other compressions are taken to tell of faults in plain words. -/
theorem plain_streams (hdecoders : DecodesPlainly) (h : GivenPlainly i files)
    (hread : CommandLine.read i.releaseUrl? i.arguments = .ok (.setup options))
    (server : Http.Server) (input : Bytes) (subscriber : Subscriber) :
    let log := (subscriber.journal i.environment).logged
      (Log.events ((intoPipe i).notices server input files))
    (i.logFilter? = none → log = []) ∧
      Plain ((intoPipe i).run server input files).output ∧
      (Plain ((intoPipe i).told subscriber server input files) ↔ Plain log) ∧
      (Refused options input → ¬Plain ((onTerminal i).told subscriber server input files)) ∧
      (¬Refused options input → (onTerminal i).told subscriber server input files =
        (intoPipe i).told subscriber server input files) := by
  intro log
  have hwrites : WritesPlainly ((intoPipe i).run server input files) :=
    writesPlainly_intoPipe hdecoders h hread
  have hpiped : (intoPipe i).told subscriber server input files =
      log ++ ((intoPipe i).run server input files).errors := told_eq _ _ _ _ _
  refine ⟨fun hfilter => logged_of_logFilter?_eq_none hfilter subscriber _, hwrites.output, ?_, ?_,
    fun hselected => told_onTerminal hread hselected subscriber⟩
  · rw [hpiped, plain_append]
    exact and_iff_left hwrites.errors
  · intro hrefused hplain
    rw [told_eq, plain_append] at hplain
    exact not_plain_onTerminal hread hrefused hplain.2

end Runs

section Samples

attribute [local instance] Archive.Decoders.absent

theorem plain_streams_sample :
    Plain (sampleSetup.told lineLog sampleServer [] ⟨[], []⟩) ∧
      (onTerminal sampleSetup).told lineLog sampleServer [] ⟨[], []⟩ =
        (intoPipe sampleSetup).told lineLog sampleServer [] ⟨[], []⟩ := by
  have hread : CommandLine.read sampleSetup.releaseUrl? sampleSetup.arguments =
      .ok (.setup ⟨some "1".toList, some "/a/b".toList, none⟩) := by decide
  have hplain : GivenPlainly sampleSetup ⟨[], []⟩ := ⟨by decide, nofun, by decide⟩
  have hdecoders : DecodesPlainly := by
    rintro codec entry data words hwords
    obtain rfl := Option.some.inj hwords
    decide
  have hselected : ¬Refused ⟨some "1".toList, some "/a/b".toList, none⟩ [] := by
    rintro ⟨given, error, hanswer, hgiven⟩
    have hlinux : Platform.ofText "1".toList = .ok .linux := by decide
    rw [← Except.ok.inj hanswer, hlinux] at hgiven
    exact nomatch hgiven
  obtain ⟨hlog, -, hpiped, -, hsame⟩ :=
    plain_streams hdecoders hplain hread sampleServer [] lineLog
  rw [hlog rfl] at hpiped
  exact ⟨hpiped.mpr plain_nil, hsame hselected⟩

def refusedSetup : Invocation := ⟨["setup".toList, "--os".toList, "9".toList], [], false⟩

/-- The refusal of a platform is coloured among the errors where the output is a terminal. -/
theorem plain_streams_refused :
    GivenPlainly refusedSetup ⟨[], []⟩ ∧
      CommandLine.read refusedSetup.releaseUrl? refusedSetup.arguments =
        .ok (.setup ⟨some "9".toList, none, none⟩) ∧
      ¬Plain ((onTerminal refusedSetup).told lineLog sampleServer [] ⟨[], []⟩) ∧
      (onTerminal refusedSetup).told lineLog sampleServer [] ⟨[], []⟩ ≠
        (intoPipe refusedSetup).told lineLog sampleServer [] ⟨[], []⟩ :=
  ⟨⟨by decide, nofun, by decide⟩, by decide, by decide +kernel, by decide +kernel⟩

end Samples

end ShaderTools.Proofs.PlainStreams
