import ShaderTools.Program
import ShaderTools.Proofs.SetupAttempts

/-!
Where a setup without an option for it downloads from. The environment's release address counts as
an option once the arguments are read, so a run asks for what a download from the release's address
asks for exactly if the variable is unset or holds a text that is not blank.
-/

namespace ShaderTools.Proofs.DownloadSource

open ShaderTools.Http
open ShaderTools.CommandLine
open ShaderTools.Proofs.SetupAttempts

section Requests

/-- The requests that a download of what lies at an address makes, if none were made before. -/
def requestsFor (server : Server) (address : Text) : List Request :=
  ((download address).run ⟨server, ⟨[], []⟩, [], [], [], []⟩).2.requests

variable {w w' : World}

/-- What is asked for while redirections are followed depends on the server, and on what was asked
for before. -/
theorem follow_agrees (asked : Url) (redirections : Nat) (place : Download.Place)
    (hserver : w.server = w'.server) (hrequests : w.requests = w'.requests) :
    ((Download.follow asked redirections place).run w).2.requests =
      ((Download.follow asked redirections place).run w').2.requests := by
  induction redirections generalizing place w w' with
  | zero =>
      rw [Download.follow, Script.run, Script.run]
      simp only [World.request, hserver, hrequests]
      split
      · rfl
      · split
        · rfl
        · split <;> rfl
  | succ redirections ih =>
      rw [Download.follow, Script.run, Script.run]
      simp only [World.request, hserver, hrequests]
      split
      · rfl
      · split
        · rfl
        · split
          · rfl
          · split
            · exact ih _ rfl rfl
            · rfl

theorem requests_download (address : Text) (hrequests : w.requests = []) :
    ((download address).run w).2.requests = requestsFor w.server address := by
  rw [requestsFor, run_download, run_download]
  unfold Download.fetch
  split
  · exact hrequests
  · simp only
    split
    · exact hrequests
    · split
      · exact hrequests
      · simp only [Script.run_bind]
        have hfollow : ∀ place asked,
            ((Download.follow asked Download.redirectionLimit place).run w).2.requests =
              ((Download.follow asked Download.redirectionLimit place).run
                ⟨w.server, ⟨[], []⟩, [], [], [], []⟩).2.requests :=
          fun place asked => follow_agrees asked _ place rfl hrequests
        split <;> split <;> exact hfollow _ _

theorem requests_forPlatform [Archive.Decoders] (p : Platform) (base : Text) (destination : Path)
    (hrequests : w.requests = []) :
    ((Setup.forPlatform p base destination).run w).2.requests =
      requestsFor w.server (p.archiveUrl base) := by
  rw [← requests_download _ hrequests]
  cases hdownload : ((download (p.archiveUrl base)).run w).1 with
  | error error => rw [run_forPlatform_of_error hdownload]
  | ok archive =>
      rw [run_forPlatform_of_ok hdownload]
      split <;> rfl

end Requests

section Reading

variable {options : SetupOptions} {arguments : List Text}

/-- The options of a setup in an environment whose variable has a value, if no option gives the
release address. -/
def optionsIn (options : SetupOptions) (value? : Option Bytes) : Except Stop Command :=
  match value? with
  | none => .ok (.setup options)
  | some bytes =>
      match Text.Utf8.decode? bytes with
      | some t => .ok (.setup { options with releaseUrl? := some t })
      | none => .error (.error (.notText .setup))

theorem setupOptions_of_unset {r : Reading} (hoptions : setupOptions none r = .ok options)
    (hurl : options.releaseUrl? = none) (value? : Option Bytes) :
    ((setupOptions value? r).mapError Stop.error >>= fun o => .ok (.setup o)) =
      optionsIn options value? := by
  cases hgiven : r.value? .releaseUrl with
  | some url =>
      simp only [setupOptions, hgiven, bind, Except.bind, pure, Except.pure] at hoptions
      obtain rfl := Except.ok.inj hoptions
      simp at hurl
  | none =>
      simp only [setupOptions, hgiven, bind, Except.bind, pure, Except.pure] at hoptions
      obtain rfl := Except.ok.inj hoptions
      cases value? with
      | none => simp [setupOptions, hgiven, optionsIn, bind, Except.bind, pure, Except.pure,
          Except.mapError]
      | some bytes =>
          cases hdecoded : Text.Utf8.decode? bytes <;>
            simp [setupOptions, hgiven, optionsIn, hdecoded, bind, Except.bind, pure, Except.pure,
              Except.mapError]

/-- Arguments that are read as a setup without a release address take the one of the
environment. -/
theorem read_of_unset (hread : CommandLine.read none arguments = .ok (.setup options))
    (hurl : options.releaseUrl? = none) (value? : Option Bytes) :
    CommandLine.read value? arguments = optionsIn options value? := by
  cases arguments with
  | nil => simp [CommandLine.read] at hread
  | cons first rest =>
      unfold CommandLine.read at hread ⊢
      cases hscope : Scope.ofName? first with
      | none =>
          simp only [hscope, bind, Except.bind] at hread
          split at hread <;> simp at hread
      | some scope =>
          simp only [hscope] at hread ⊢
          cases scope with
          | setup =>
              simp only at hread ⊢
              cases harguments : readArguments .setup .start rest with
              | error stop => simp [harguments, bind, Except.bind] at hread
              | ok r =>
                  simp only [harguments, bind, Except.bind] at hread ⊢
                  cases hoptions : setupOptions none r with
                  | error e => simp [hoptions, Except.mapError] at hread
                  | ok found =>
                      simp only [hoptions, Except.mapError, pure, Except.pure] at hread
                      obtain rfl : found = options := by simpa using hread
                      exact setupOptions_of_unset hoptions hurl value?
          | snippets =>
              simp only [bind, Except.bind] at hread
              split at hread <;> simp [pure, Except.pure] at hread
          | program => simp only at hread; split at hread <;> simp at hread
          | help => simp only at hread; split at hread <;> simp at hread

end Reading

section Runs

variable {i : Invocation} {options : SetupOptions} {p : Platform} {server : Server} {input : Bytes}
  {files made : FileSystem} {directory : Path} {w : World}

/-- The platform that a setup is asked for, by its option or by the first line of the input. -/
def platformAsked? (options : SetupOptions) (input : Bytes) : Option Platform :=
  (options.os?.or (FileSystem.textOfBytes (Bytes.firstLine input)).toOption).bind fun answer =>
    (Platform.ofText answer).toOption

/-- The directory that a setup installs into; it may be a working directory that was removed. -/
def directoryAsked (options : SetupOptions) (files : FileSystem) : Except Failure Path :=
  match options.destination? with
  | some path => .ok path
  | none => files.currentDirectory

/-- Whether a run goes by the release's address for a value of the variable. -/
def goesByRelease (value? : Option Bytes) : Bool :=
  match value? with
  | none => true
  | some bytes =>
      match Text.Utf8.decode? bytes with
      | some t => !t.trim.isEmpty
      | none => false

theorem requests_write (w : World) (channel : Channel) (text : Text) :
    (w.write channel text).requests = w.requests := by
  cases channel <;> rfl

theorem run_destination (options : SetupOptions) (w : World) :
    (Program.destination options.destination?).run w = (directoryAsked options w.files, w) := by
  unfold Program.destination directoryAsked
  cases options.destination? <;> rfl

/-- A setup's directory is the one that it was given, or else the working directory. -/
theorem directoryAsked_cases (h : directoryAsked options files = .ok directory) :
    options.destination? = some directory ∨ directory = files.workingPath := by
  unfold directoryAsked at h
  split at h
  next path hgiven => exact .inl (hgiven.trans (congrArg some (Except.ok.inj h)))
  next =>
    unfold FileSystem.currentDirectory at h
    split at h
    · exact .inr (Except.ok.inj h).symm
    · exact nomatch h

section Setup

variable [Archive.Decoders]

theorem requests_installInto (styling : Terminal.Styling) (base : Text) (directory : Path)
    (hrequests : w.requests = []) :
    ((Program.installInto styling p base directory).run w).2.requests =
      requestsFor w.server (p.archiveUrl base) := by
  simp only [Program.installInto, Script.run_bind, Program.tell, Script.run_print]
  generalize Terminal.statusLine styling .info _ ++ ['\n'] = line
  rw [show requestsFor w.server (p.archiveUrl base) = requestsFor (w.write .output line).server _
    from rfl, ← requests_forPlatform p base directory ((requests_write _ _ _).trans hrequests)]
  split
  · simp [Program.fail, requests_write]
  · simp [requests_write]

theorem requests_setupFor (hrequests : w.requests = [])
    (hasked : directoryAsked options w.files = .ok directory)
    (hmade : (FileChange.makeDirectories directory).perform w.files = .ok () made) :
    ((Program.setupFor i options p).run w).2.requests =
      requestsFor w.server
        (p.archiveUrl (Program.baseUrl options.releaseUrl? i.releaseUrl?)) := by
  have hchange : w.change (.makeDirectories directory) = (.ok (), { w with files := made }) := by
    simp only [World.change, hmade]
  simp only [Program.setupFor, Script.run_bind, run_destination, hasked, Script.run_perform,
    hchange, Script.run_log]
  exact requests_installInto _ _ _ hrequests

theorem requests_setup (hplatform : platformAsked? options w.input = some p)
    (hrequests : w.requests = []) (hasked : directoryAsked options w.files = .ok directory)
    (hmade : (FileChange.makeDirectories directory).perform w.files = .ok () made) :
    ((Program.setup i options).run w).2.requests =
      requestsFor w.server
        (p.archiveUrl (Program.baseUrl options.releaseUrl? i.releaseUrl?)) := by
  obtain ⟨answer, hanswer, hchosen⟩ := Option.bind_eq_some_iff.mp hplatform
  have hofText : Platform.ofText answer = .ok p := by
    cases hof : Platform.ofText answer with
    | error e => simp [hof, Except.toOption] at hchosen
    | ok found => simpa [hof, Except.toOption] using hchosen
  cases hos : options.os? with
  | some given =>
      obtain rfl : given = answer := by simpa [hos] using hanswer
      simp only [Program.setup, Program.selection, hos, Script.run_bind, Script.run_log,
        Script.run_pure, hofText]
      exact requests_setupFor hrequests hasked hmade
  | none =>
      have hline : FileSystem.textOfBytes (Bytes.firstLine w.input) = .ok answer := by
        cases hline : FileSystem.textOfBytes (Bytes.firstLine w.input) with
        | error failure => simp [hos, hline, Except.toOption] at hanswer
        | ok line => simpa [hos, hline, Except.toOption] using hanswer
      simp only [Program.setup, Program.selection, hos, Script.run_bind, Script.run_log,
        Script.run_print, Script.run, World.write, hline, hofText]
      exact requests_setupFor hrequests hasked hmade

theorem requests_run_of_read {command : SetupOptions}
    (hread : CommandLine.read i.releaseUrl? i.arguments = .ok (.setup command))
    (hplatform : platformAsked? command input = some p)
    (hasked : directoryAsked command files = .ok directory)
    (hmade : (FileChange.makeDirectories directory).perform files = .ok () made) :
    (i.run server input files).requests =
      requestsFor server
        (p.archiveUrl (Program.baseUrl command.releaseUrl? i.releaseUrl?)) := by
  simp only [Invocation.run, Invocation.script, hread, Program.perform]
  exact requests_setup (w := ⟨server, files, input, [], [], []⟩) hplatform rfl hasked hmade

theorem requests_run_of_stop {stop : Stop}
    (hread : CommandLine.read i.releaseUrl? i.arguments = .error stop) :
    (i.run server input files).requests = [] := by
  simp only [Invocation.run, Invocation.script, hread]
  cases stop <;> rfl

end Setup

/-- An archive's address below a blank base is no address. -/
theorem requestsFor_blank (server : Server) (p : Platform) :
    requestsFor server (p.archiveUrl []) = [] := by
  have hurl : ∃ fault, Url.ofText (p.archiveUrl []) = .error fault := by
    cases p <;> exact ⟨.relativeWithoutBase, by decide⟩
  obtain ⟨fault, hfault⟩ := hurl
  simp [requestsFor, run_download, Download.fetch, hfault]

/-- A setup without an option for it asks for the archive at the release's address if the variable
is unset or holds a text that is not blank, and for nothing at all otherwise. -/
theorem requests_run [Archive.Decoders]
    (hread : CommandLine.read none i.arguments = .ok (.setup options))
    (hurl : options.releaseUrl? = none) (hplatform : platformAsked? options input = some p)
    (hasked : directoryAsked options files = .ok directory)
    (hmade : (FileChange.makeDirectories directory).perform files = .ok () made) :
    (i.run server input files).requests =
      if goesByRelease i.releaseUrl? then
        requestsFor server (p.archiveUrl (Release.addressOfVariable i.releaseUrl?))
      else [] := by
  have hreads := read_of_unset hread hurl i.releaseUrl?
  cases hvalue : i.releaseUrl? with
  | none =>
      rw [requests_run_of_read (hreads.trans (by simp only [optionsIn, hvalue])) hplatform hasked
        hmade]
      simp [goesByRelease, Program.baseUrl, hurl, hvalue]
  | some bytes =>
      cases hdecoded : Text.Utf8.decode? bytes with
      | none =>
          rw [requests_run_of_stop (hreads.trans (by simp only [optionsIn, hvalue, hdecoded]; rfl))]
          simp [goesByRelease, hdecoded]
      | some t =>
          have hcommand : CommandLine.read i.releaseUrl? i.arguments =
              .ok (.setup { options with releaseUrl? := some t }) :=
            hreads.trans (by simp only [optionsIn, hvalue, hdecoded])
          rw [requests_run_of_read hcommand hplatform hasked hmade]
          simp only [goesByRelease, hdecoded, Program.baseUrl]
          by_cases hblank : t.trim.isEmpty
          · have htidy : Release.tidy t = [] := by
              rw [Release.tidy, List.isEmpty_iff.mp hblank, Text.dropEndWhile_nil]
            simp [hblank, htidy, requestsFor_blank]
          · simp [hblank, Release.addressOfVariable, Release.address, hdecoded, Option.filter]

section Samples

attribute [local instance] Archive.Decoders.absent

/-- A setup for Linux in the working directory, with a value for the variable. -/
def setupWith (value : Bytes) : Invocation :=
  ⟨["setup".toList, "--os".toList, "1".toList], [(Release.addressVariable, value)], false⟩

/-- An address for the variable. -/
def mirror : Text := "http://mirror".toList

theorem requests_setupWith_mirror :
    ((setupWith (Text.Utf8.encode mirror)).run (fun _ => .error .refused) [] ⟨[], []⟩).requests =
      requestsFor (fun _ => .error .refused) (Platform.linux.archiveUrl mirror) := by
  have hread : CommandLine.read none (setupWith (Text.Utf8.encode mirror)).arguments =
      .ok (.setup ⟨some "1".toList, none, none⟩) := by decide
  have hplatform : platformAsked? ⟨some "1".toList, none, none⟩ [] = some .linux := by decide
  have hasked : directoryAsked ⟨some "1".toList, none, none⟩ ⟨[], []⟩ = .ok ['/'] := rfl
  have hmade : (FileChange.makeDirectories ['/']).perform ⟨[], []⟩ = .ok () ⟨[], []⟩ := rfl
  have hgoes : goesByRelease (setupWith (Text.Utf8.encode mirror)).releaseUrl? = true := by decide
  have haddress : Release.addressOfVariable
      (setupWith (Text.Utf8.encode mirror)).releaseUrl? = mirror := by decide
  rw [requests_run hread rfl hplatform hasked hmade, if_pos hgoes, haddress]

/-- A blank value, or one that is not UTF-8, keeps a setup from asking for anything, although the
release's address stays the one that is asked for by default. -/
theorem requests_setupWith_blank :
    ((setupWith [32]).run (fun _ => .error .refused) [] ⟨[], []⟩).requests = [] ∧
      ((setupWith [255]).run (fun _ => .error .refused) [] ⟨[], []⟩).requests = [] ∧
      Release.addressOfVariable (some [32]) = Release.defaultAddress ∧
      Release.addressOfVariable (some [255]) = Release.defaultAddress ∧
      requestsFor (fun _ => .error .refused)
        (Platform.linux.archiveUrl Release.defaultAddress) ≠ [] := by
  refine ⟨by decide +kernel, by decide +kernel, by decide, by decide, by decide +kernel⟩

end Samples

end Runs

end ShaderTools.Proofs.DownloadSource
