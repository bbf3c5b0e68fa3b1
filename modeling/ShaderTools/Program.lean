import ShaderTools.CommandLine.Help
import ShaderTools.Setup
import ShaderTools.Terminal.Report
import ShaderTools.Terminal.Status
import ShaderTools.Uniform.Snippet

/-!
The program: what it does for a command line, as a script that ends with the exit code. Setting up
the validator asks for the platform if no option names it, makes the directory, and tells how it
goes on; printing snippets stops at the first error, and prints no array at all if there is one.
The log is written where errors are told, by a subscriber that goes by the environment.
-/

namespace ShaderTools

/-- How the program is started: its arguments, its environment, and whether its output is a
terminal. -/
structure Invocation where
  arguments : List Text
  environment : List (Text × Bytes)
  isTerminal : Bool

namespace Invocation

/-- The value of an environment variable. -/
def value? (i : Invocation) (name : Text) : Option Bytes :=
  (i.environment.find? fun entry => entry.1 = name).map Prod.snd

/-- The release address that the environment gives. -/
def releaseUrl? (i : Invocation) : Option Bytes := i.value? Release.addressVariable

/-- The environment variable that asks for messages without colours, unless it is empty. -/
def noColorVariable : Text := "NO_COLOR".toList

/-- The environment variable that asks for a log. -/
def logVariable : Text := "RUST_LOG".toList

/-- What the environment asks to be logged. -/
def logFilter? (i : Invocation) : Option Bytes := i.value? logVariable

/-- Whether the environment asks for messages without colours. -/
def refusesColor (i : Invocation) : Bool :=
  match (i.value? noColorVariable).bind Text.Utf8.decode? with
  | some t => !t.isEmpty
  | none => false

/-- How messages are written. -/
def styling (i : Invocation) : Terminal.Styling :=
  if !i.isTerminal then .plain else if i.refusesColor then .colorless else .colored

end Invocation

namespace Program

open Script (print)

/-- Writes the report of a failure, and ends with the exit code of a failure. -/
def fail (what : Text) (causes : List Text) : Script Nat := do
  print .errors (Terminal.report what causes)
  return 1

/-- Writes a status line. -/
def tell (styling : Terminal.Styling) (channel : Channel) (severity : Terminal.Severity)
    (message : Text) : Script Unit :=
  print channel (Terminal.statusLine styling severity message ++ ['\n'])

/-- The answer to the question for a platform: that of the option, or a line of the input, which
has to be text. -/
def selection (os? : Option Text) : Script (Except Failure Text) :=
  match os? with
  | some answer => pure (.ok answer)
  | none => do
    print .output Platform.menu
    .readLine fun line => .done (FileSystem.textOfBytes line)

/-- The directory to install into: that of the option, or the working directory. -/
def destination (destination? : Option Path) : Script (Except Failure Path) :=
  match destination? with
  | some path => pure (.ok path)
  | none => .workingPath .done

/-- The base address of the releases: that of the option, or of the environment. -/
def baseUrl (releaseUrl? : Option Text) (environmentUrl? : Option Bytes) : Text :=
  match releaseUrl? with
  | some url => Release.tidy url
  | none => Release.addressOfVariable environmentUrl?

section Setup

variable [Archive.Decoders]

/-- The setup has begun, on the platform that the program runs on. -/
def begun : Log.Event :=
  { level := .debug
    target := "mcglsl_cli::cmd::setup".toList
    message := "host platform".toList
    fields := [("host".toList, Platform.native.name)] }

/-- The release archive of a platform is the one to install from. -/
def selected (p : Platform) (base : Text) : Log.Event :=
  { level := .debug
    target := "mcglsl_cli::cmd::setup".toList
    message := "selected release archive".toList
    fields := [("platform".toList, p.label), ("url".toList, p.archiveUrl base)] }

/-- Installs the validator for a platform into a directory that is there, and tells about it. -/
def installInto (styling : Terminal.Styling) (p : Platform) (base : Text) (directory : Path) :
    Script Nat := do
  tell styling .output .info "Downloading...".toList
  match ← Setup.forPlatform p base directory with
  | .error e => fail ("Failed to install ".toList ++ p.fileName) (e.message :: e.causes)
  | .ok path =>
    tell styling .output .success
      (p.fileName ++ " downloaded. Add this line to your VSCode settings:".toList)
    print .output (Terminal.highlight styling (settingEntry path) ++ ['\n'])
    return 0

/-- Sets up the validator for a platform. -/
def setupFor (i : Invocation) (options : CommandLine.SetupOptions) (p : Platform) :
    Script Nat := do
  match ← destination options.destination? with
  | .error failure => fail "Failed to determine current directory".toList [failure.message]
  | .ok directory =>
    match ← Script.perform (.makeDirectories directory) with
    | .error failure => fail ("Failed to create ".toList ++ directory) [failure.message]
    | .ok _ =>
      let base := baseUrl options.releaseUrl? i.releaseUrl?
      Script.log (selected p base)
      installInto i.styling p base directory

def setup (i : Invocation) (options : CommandLine.SetupOptions) : Script Nat := do
  Script.log begun
  match ← selection options.os? with
  | .error failure => fail "Failed to read platform selection".toList [failure.message]
  | .ok answer =>
    match Platform.ofText answer with
    | .error e =>
      tell i.styling .errors .error e.message
      return 1
    | .ok p => setupFor i options p

end Setup

/-- The declaration on a line is skipped. -/
def skipped (line : Nat) (label : Text) : Log.Event :=
  { level := .trace
    target := "mcglsl_core::uniforms".toList
    message := "skipping duplicate uniform".toList
    fields := [("label".toList, label), ("line".toList, Text.ofNat line)] }

/-- Prints the blocks of items up to the first error. -/
def printBlocks : List Listing.Reading → Script Nat
  | [] => pure 0
  | .skipped line label :: rest => do
    Script.log (skipped line label)
    printBlocks rest
  | .item (.error e) :: _ => fail e.message e.causes
  | .item (.ok uniform) :: rest => do
    print .output (uniform.block ++ ['\n'])
    printBlocks rest

/-- Tells the log which declarations are skipped. -/
def logSkipped : List Listing.Reading → Script Unit
  | [] => pure ()
  | .skipped line label :: rest => do
    Script.log (skipped line label)
    logSkipped rest
  | .item _ :: rest => logSkipped rest

/-- Prints the uniforms of items as one array, unless there is an error among them. -/
def printArray (items : List Listing.Item) : Script Nat :=
  match items.mapM id with
  | .error e => fail e.message e.causes
  | .ok uniforms => do
    print .output (snippetsText uniforms)
    return 0

def snippets (options : CommandLine.SnippetsOptions) : Script Nat :=
  .readFile options.input fun bytes =>
    match Listing.textOfRead options.input bytes with
    | .error e => fail e.message e.causes
    | .ok t =>
      let readings := Listing.readingsOfText t
      if options.json then do
        logSkipped readings
        printArray (Listing.itemsOf readings)
      else printBlocks readings

/-- Does what a command asks for. -/
def perform [Archive.Decoders] (i : Invocation) : CommandLine.Command → Script Nat
  | .setup options => setup i options
  | .snippets options => snippets options

/-- Writes what is to be told where no command is carried out. -/
def stop (i : Invocation) : CommandLine.Stop → Script Nat
  | .help scope => do
    print .output ((CommandLine.helpMarkup i.releaseUrl? scope).render (i.styling = .colored))
    return 0
  | .version => do
    print .output CommandLine.versionText
    return 0
  | .error e => do
    print .errors (e.report i.releaseUrl?)
    return 2

end Program

section Runs

variable [Archive.Decoders]

/-- The program, from its start to its exit code. -/
def Invocation.script (i : Invocation) : Script Nat :=
  match CommandLine.read i.releaseUrl? i.arguments with
  | .ok command => Program.perform i command
  | .error stop => Program.stop i stop

/-- What a run leaves behind: its exit code, what it wrote besides its log, what it asked servers
for, and the files. -/
structure Run where
  exit : Nat
  output : Text
  errors : Text
  requests : List Http.Request
  files : FileSystem

/-- The run of the program with some input, in given surroundings. -/
def Invocation.run (i : Invocation) (server : Http.Server) (input : Bytes) (files : FileSystem) :
    Run :=
  let result := i.script.run ⟨server, files, input, [], [], []⟩
  { exit := result.1
    output := result.2.output
    errors := result.2.errors
    requests := result.2.requests
    files := result.2.files }

/-- What a run gives notice of where errors are told. -/
def Invocation.notices (i : Invocation) (server : Http.Server) (input : Bytes)
    (files : FileSystem) : List Log.Notice :=
  i.script.notices ⟨server, files, input, [], [], []⟩

/-- What keeps the logs of runs: a journal for each environment, which stays empty where no log is
asked for. -/
structure Subscriber where
  journal : (environment : List (Text × Bytes)) → Log.Journal
  silent : ∀ i : Invocation, i.logFilter? = none → journal i.environment = fun _ => []

/-- All that a run writes where errors are told: its log, and the messages of its own. -/
def Invocation.told (i : Invocation) (subscriber : Subscriber) (server : Http.Server)
    (input : Bytes) (files : FileSystem) : Text :=
  (subscriber.journal i.environment).text (i.notices server input files)

end Runs

end ShaderTools
