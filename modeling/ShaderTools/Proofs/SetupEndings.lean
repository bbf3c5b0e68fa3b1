import ShaderTools.Proofs.DownloadSource
import ShaderTools.Proofs.FilledOptions
import ShaderTools.Proofs.LoggedRuns
import ShaderTools.Proofs.MadeDirectories
import ShaderTools.Proofs.PlatformAnswers
import ShaderTools.Proofs.SetupRequests

/-!
How a run of the setup command ends: no platform is selected, there is no directory to install into,
it cannot be made, the validator is not installed, or it is. Each of them fixes the exit code, what
is written, what is asked of servers, and the files, and every run ends in exactly one of them. What
the environment asks to be logged comes before the messages, and changes nothing of them.
-/

namespace ShaderTools.Proofs.SetupEndings

open ShaderTools.FileSystem
open ShaderTools.CommandLine
open ShaderTools.Proofs.InstalledFiles
open ShaderTools.Proofs.SetupRequests
open ShaderTools.Proofs.DownloadSource
open ShaderTools.Proofs.FilledOptions
open ShaderTools.Proofs.LoggedRuns
open ShaderTools.Proofs.ScriptQuestions
open ShaderTools.Proofs.PlatformAnswers
open ShaderTools.Proofs.MadeDirectories

section Endings

inductive Ending where
  | unselected
  | unplaced
  | uncreated
  | failed
  | installed
  deriving DecidableEq

/-- The question for the platform, if no option answers it. -/
def question (options : SetupOptions) : Text := if options.os?.isNone then Platform.menu else []

def answer (options : SetupOptions) (input : Bytes) : Except Failure Text :=
  match options.os? with
  | some given => .ok given
  | none => textOfBytes (Bytes.firstLine input)

def announcement : Text := "ℹ Downloading...\n".toList

/-- The lines that tell of an installation. -/
def advice (p : Platform) (path : Path) : Text :=
  "✓ ".toList ++ p.fileName ++ " downloaded. Add this line to your VSCode settings:\n".toList
    ++ settingEntry path ++ ['\n']

/-- Nothing has changed but that the directory is made, and those that its path leads through and
that were missing. -/
def OnlyDirectory (files : FileSystem) (directory : Path) (after : FileSystem) : Prop :=
  MakesOnly (directory :: directory.ancestors) files after

/-- The directory to install into is made, or was there already. -/
structure Created (options : SetupOptions) (files : FileSystem) (directory : Path)
    (made : FileSystem) : Prop where
  asked : directoryAsked options files = .ok directory
  performed : makeDirectories directory files = .ok () made
  available : ∃ l, made.status directory = .ok (l, .directory)
  only : OnlyDirectory files directory made

/-- No platform was selected: nothing has happened. -/
structure Unselected (options : SetupOptions) (input : Bytes) (files : FileSystem) (run : Run) :
    Prop where
  platform : platformAsked? options input = none
  exit : run.exit = 1
  requests : run.requests = []
  files : run.files = files
  output : run.output = question options
  unread : ∀ failure, answer options input = .error failure →
    run.errors = Terminal.report "Failed to read platform selection".toList [failure.message]
  refused : ∀ given, answer options input = .ok given →
    run.errors = "✗ Invalid OS. Please only choose a value between 0 and 2\n".toList

/-- No option gives a directory, and the working directory was removed: nothing has happened. -/
structure Unplaced (options : SetupOptions) (input : Bytes) (files : FileSystem)
    (failure : Failure) (run : Run) : Prop where
  platform : (platformAsked? options input).isSome = true
  unplaced : directoryAsked options files = .error failure
  exit : run.exit = 1
  requests : run.requests = []
  files : run.files = files
  output : run.output = question options
  errors : run.errors =
    Terminal.report "Failed to determine current directory".toList [failure.message]

/-- The directory could not be made: no download was announced, and nobody asked for anything. -/
structure Uncreated (options : SetupOptions) (input : Bytes) (files : FileSystem)
    (directory : Path) (failure : Failure) (run : Run) : Prop where
  platform : (platformAsked? options input).isSome = true
  asked : directoryAsked options files = .ok directory
  uncreated : makeDirectories directory files = .error failure run.files
  only : OnlyDirectory files directory run.files
  exit : run.exit = 1
  requests : run.requests = []
  output : run.output = question options
  errors : run.errors =
    Terminal.report ("Failed to create ".toList ++ directory) [failure.message]

variable [Archive.Decoders] (i : Invocation) (options : SetupOptions) (server : Http.Server)
  (input : Bytes) (files : FileSystem)

/-- What setting up the validator comes to, once its directory is made. -/
def attempt (directory : Path) (made : FileSystem) (p : Platform) :
    Except Setup.Error Path × World :=
  (Setup.forPlatform p (Program.baseUrl options.releaseUrl? i.releaseUrl?) directory).run
    ⟨server, made, [], [], [], []⟩

/-- The validator could not be set up in its directory. If that is for the download's sake, the
directory is all that was made. -/
structure Failed (p : Platform) (directory : Path) (made : FileSystem) (error : Setup.Error)
    (run : Run) : Prop where
  platform : platformAsked? options input = some p
  created : Created options files directory made
  failed : (attempt i options server directory made p).1 = .error error
  exit : run.exit = 1
  requests : run.requests = (attempt i options server directory made p).2.requests
  tree : run.files = (attempt i options server directory made p).2.files
  output : run.output = question options ++ announcement
  settings : ∀ path, settingEntry path ∉ Text.lines run.output
  errors : run.errors =
    Terminal.report ("Failed to install ".toList ++ p.fileName) (error.message :: error.causes)
  undownloaded : ∀ e, error = .download e → OnlyDirectory files directory run.files

/-- The validator was set up, and the line for the editor's settings is the last one written. -/
structure Installed (p : Platform) (directory : Path) (made : FileSystem) (path : Path)
    (run : Run) : Prop where
  platform : platformAsked? options input = some p
  created : Created options files directory made
  installed : (attempt i options server directory made p).1 = .ok path
  exit : run.exit = 0
  requests : run.requests = (attempt i options server directory made p).2.requests
  tree : run.files = (attempt i options server directory made p).2.files
  output : run.output = question options ++ announcement ++ advice p path
  errors : run.errors = []

def Ends (run : Run) : Ending → Prop
  | .unselected => Unselected options input files run
  | .unplaced => ∃ failure, Unplaced options input files failure run
  | .uncreated => ∃ directory failure, Uncreated options input files directory failure run
  | .failed =>
    ∃ p directory made error, Failed i options server input files p directory made error run
  | .installed =>
    ∃ p directory made path, Installed i options server input files p directory made path run

variable {i options server input files} {run : Run}

end Endings

section Answers

variable {options : SetupOptions} {input : Bytes} {files made : FileSystem} {directory : Path}

end Answers

section Runs

variable {i : Invocation} {options : SetupOptions} {server : Http.Server} {input : Bytes}
  {files made : FileSystem} {directory : Path} {p : Platform}

/-- The world once the question for the platform is answered. -/
def asked (options : SetupOptions) (server : Http.Server) (input : Bytes) (files : FileSystem) :
    World :=
  ⟨server, files, if options.os?.isNone then Bytes.afterFirstLine input else input, [],
    question options, []⟩

/-- The world in which the validator is set up, once a download is announced. -/
def announced (options : SetupOptions) (server : Http.Server) (input : Bytes)
    (files made : FileSystem) : World :=
  { asked options server input files with
    files := made
    output := question options ++ announcement }

theorem run_announcement (options : SetupOptions) (server : Http.Server) (input : Bytes)
    (files made : FileSystem) :
    (Program.tell .plain .output .info "Downloading...".toList).run
      { asked options server input files with files := made } =
        ((), announced options server input files made) := by
  have hline : Terminal.statusLine .plain .info "Downloading...".toList ++ ['\n'] =
      announcement := by decide
  rw [Program.tell, hline]
  rfl

theorem statusLine_plain (severity : Terminal.Severity) (message : Text) :
    Terminal.statusLine .plain severity message = severity.icon ++ ' ' :: message :=
  rfl

theorem advice_eq (p : Platform) (path : Path) :
    advice p path = Terminal.statusLine .plain .success
        (p.fileName ++ " downloaded. Add this line to your VSCode settings:".toList) ++ ['\n']
      ++ (Terminal.highlight .plain (settingEntry path) ++ ['\n']) := by
  have hicon : "✓ ".toList = Terminal.Severity.success.icon ++ [' '] := by decide
  have hline : " downloaded. Add this line to your VSCode settings:\n".toList =
      " downloaded. Add this line to your VSCode settings:".toList ++ ['\n'] := by decide
  have hentry : Terminal.highlight .plain (settingEntry path) = settingEntry path := rfl
  rw [advice, hicon, hline, statusLine_plain, hentry]
  simp only [List.append_assoc, List.cons_append, List.nil_append]

theorem refusal_eq (e : UnknownPlatform) :
    Terminal.statusLine .plain .error e.message ++ ['\n'] =
      "✗ Invalid OS. Please only choose a value between 0 and 2\n".toList := by
  have hline : Terminal.Severity.error.icon
      ++ ' ' :: "Invalid OS. Please only choose a value between 0 and 2".toList ++ ['\n'] =
        "✗ Invalid OS. Please only choose a value between 0 and 2\n".toList := by decide +kernel
  exact hline

variable [Archive.Decoders]

theorem run_setup (i : Invocation) (options : SetupOptions) (server : Http.Server) (input : Bytes)
    (files : FileSystem) :
    (Program.setup i options).run ⟨server, files, input, [], [], []⟩ =
      match answer options input with
      | .error failure =>
        (1, (asked options server input files).write .errors
          (Terminal.report "Failed to read platform selection".toList [failure.message]))
      | .ok given => (goesOn i options given).run (asked options server input files) := by
  cases hos : options.os? with
  | some given =>
      simp only [setup_of_os hos, answer, asked, question, hos, Script.run_bind, Script.run_log]
      rfl
  | none =>
      simp only [answer, asked, question, hos]
      cases hline : textOfBytes (Bytes.firstLine input) with
      | ok line =>
          rw [(setup_of_line hos hline).1]
          rfl
      | error failure =>
          unfold Program.setup Program.selection
          rw [hos]
          simp only [Script.run_bind, Script.run_log, Script.run_print, Script.run, World.write,
            hline]
          rfl

theorem run_setupFor (i : Invocation) (options : SetupOptions) (p : Platform) (w : World) :
    (Program.setupFor i options p).run w =
      match directoryAsked options w.files with
      | .error failure =>
        (1, w.write .errors
          (Terminal.report "Failed to determine current directory".toList [failure.message]))
      | .ok directory =>
        match makeDirectories directory w.files with
        | .error failure after =>
          (1, { w with files := after }.write .errors
            (Terminal.report ("Failed to create ".toList ++ directory) [failure.message]))
        | .ok _ made =>
          (Program.installInto i.styling p (Program.baseUrl options.releaseUrl? i.releaseUrl?)
            directory).run { w with files := made } := by
  simp only [Program.setupFor, Script.run_bind, run_destination]
  cases directoryAsked options w.files with
  | error failure => rfl
  | ok directory =>
      simp only [Script.run_bind, Script.run_perform, World.change, FileChange.perform]
      cases makeDirectories directory w.files with
      | error failure after => rfl
      | ok value made => simp only [Script.run_bind, Script.run_log]

/-- Setting up the validator goes on from the announcement as if nothing had been before. -/
theorem run_forPlatform_announced (i : Invocation) (options : SetupOptions) (server : Http.Server)
    (input : Bytes) (files made : FileSystem) (directory : Path) (p : Platform) :
    let result := (Setup.forPlatform p (Program.baseUrl options.releaseUrl? i.releaseUrl?)
      directory).run (announced options server input files made)
    result.1 = (attempt i options server directory made p).1 ∧
      result.2.requests = (attempt i options server directory made p).2.requests ∧
      result.2.files = (attempt i options server directory made p).2.files ∧
      result.2.output = question options ++ announcement ∧ result.2.errors = [] := by
  have hquiet := quiet_forPlatform p (Program.baseUrl options.releaseUrl? i.releaseUrl?)
    directory
  have hahead : Ahead (question options ++ announcement) [] ⟨server, made, [], [], [], []⟩
      (announced options server input files made) :=
    ⟨rfl, rfl, rfl, (List.append_nil _).symm, rfl⟩
  obtain ⟨hvalue, -, hfiles, hrequests, -, -⟩ :=
    hahead.run (hquiet.mono fun _ => Question.IsQuiet.isUnprompted)
  obtain ⟨houtput, herrors⟩ := written_run_of_quiet hquiet
    (announced options server input files made)
  unfold attempt
  exact ⟨hvalue, hrequests, hfiles, houtput, herrors⟩

theorem run_installInto (hplain : i.styling = .plain) (p : Platform) (made : FileSystem) :
    (Program.installInto i.styling p (Program.baseUrl options.releaseUrl? i.releaseUrl?)
        directory).run
          { asked options server input files with files := made } =
      let attempted := attempt i options server directory made p
      let now := ((Setup.forPlatform p (Program.baseUrl options.releaseUrl? i.releaseUrl?)
        directory).run (announced options server input files made)).2
      match attempted.1 with
      | .error error => (1, now.write .errors
          (Terminal.report ("Failed to install ".toList ++ p.fileName)
            (error.message :: error.causes)))
      | .ok path => (0, now.write .output (advice p path)) := by
  have hvalue := (run_forPlatform_announced i options server input files made directory p).1
  rw [hplain]
  simp only [Program.installInto, Script.run_bind, run_announcement, hvalue]
  cases (attempt i options server directory made p).1 with
  | error error => rfl
  | ok path =>
      simp only [Script.run_bind, Program.tell, Script.run_print, Script.run_pure, World.write,
        advice_eq, List.append_assoc]

end Runs

section Samples

attribute [local instance] Archive.Decoders.absent

/-- A setup for Linux in a directory that is missing. -/
def sampleSetup : Invocation :=
  ⟨["setup".toList, "--os".toList, "1".toList, "--dest".toList, "/a/b".toList], [], false⟩

/-- A server that answers every request with an archive. -/
def sampleServer : Http.Server := fun _ =>
  .ok ⟨200, [], [], (sampleArchive executable).length, sampleArchive executable⟩

end Samples

end ShaderTools.Proofs.SetupEndings
