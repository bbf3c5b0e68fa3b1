import ShaderTools.CommandLine.Flag
import ShaderTools.FileSystem.Path
import ShaderTools.Release
import ShaderTools.Text.Similarity
import ShaderTools.Text.Utf8
import ShaderTools.Uniform.Listing

/-!
Reading the arguments of a command line. An option may be given once; its value stands behind an
equals sign or is the next argument, which may not look like an option unless the option takes
anything. A value is only looked at when the next option is met or the arguments end, so a stray
argument is reported before a value that is not accepted.
-/

namespace ShaderTools.CommandLine

/-- What the setup command is asked for. -/
structure SetupOptions where
  os? : Option Text
  destination? : Option Path
  releaseUrl? : Option Text
  deriving DecidableEq, Repr

/-- What the snippets command is asked for. -/
structure SnippetsOptions where
  input : Path
  json : Bool
  deriving DecidableEq, Repr

inductive Command where
  | setup (options : SetupOptions)
  | snippets (options : SnippetsOptions)
  deriving DecidableEq, Repr

/-- A hint at what may have been meant. -/
inductive Hint where
  /-- An option with a similar name. -/
  | flag (f : Flag)
  /-- An option of a command that is named later. -/
  | flagOf (command : Text) (f : Flag)
  /-- A command that is not read as one because of the hyphens before it. -/
  | command (name : Text)
  deriving DecidableEq, Repr

/-- Why arguments are not understood. Some errors tell which options had been given. -/
inductive UsageError where
  | noCommand
  | unknownCommand (scope : Scope) (name : Text) (similar : List Text)
  | unknownArgument (scope : Scope) (argument : Text) (hint? : Option Hint) (given : List Flag)
  | missingValue (f : Flag)
  | unexpectedValue (scope : Scope) (f : Flag) (value : Text) (given : List Flag)
  | repeated (scope : Scope) (f : Flag)
  /-- A value is not UTF-8. -/
  | notText (scope : Scope)
  deriving DecidableEq, Repr

/-- Why reading arguments ends without a command. -/
inductive Stop where
  /-- Help is asked for. -/
  | help (scope : Scope)
  /-- The version is asked for. -/
  | version
  | error (e : UsageError)
  deriving DecidableEq, Repr

/-- The options read so far: those accepted, in order, with their values, and the last one while
its value is not accepted, or not even read. -/
structure Reading where
  given : List (Flag × Text)
  pending? : Option (Flag × Option Text)

namespace Reading

/-- Nothing is read. -/
def start : Reading := ⟨[], none⟩

/-- The options accepted so far. -/
def flags (r : Reading) : List Flag := r.given.map Prod.fst

/-- The value of an option that was accepted. -/
def value? (r : Reading) (f : Flag) : Option Text :=
  (r.given.find? fun entry => entry.1 = f).map Prod.snd

/-- The option whose value is to come. -/
def awaiting? (r : Reading) : Option Flag :=
  match r.pending? with
  | some (f, none) => some f
  | _ => none

def accept (scope : Scope) (r : Reading) (f : Flag) (value : Text) : Except UsageError Reading :=
  if f ∈ r.flags then .error (.repeated scope f)
  else if value.isEmpty && !f.mayBeEmpty then .error (.missingValue f)
  else .ok ⟨r.given ++ [(f, value)], none⟩

/-- Accepts the pending option. -/
def settle (scope : Scope) (r : Reading) : Except UsageError Reading :=
  match r.pending? with
  | none => .ok r
  | some (f, none) => .error (.missingValue f)
  | some (f, some value) => r.accept scope f value

/-- The options accepted when another error is about to be reported. -/
def settledFlags (scope : Scope) (r : Reading) : List Flag :=
  match r.settle scope with
  | .ok settled => settled.flags
  | .error _ => r.flags

/-- Takes an argument as the value of an option. -/
def supply (r : Reading) (f : Flag) (value : Text) : Reading :=
  { r with pending? := some (f, some value) }

end Reading

/-- The option that may have been meant by a long name: one of the scope, or one of a command that
is named behind it. -/
def hintFor (scope : Scope) (name : Text) (behind : List Text) : Option Hint :=
  let meant (s : Scope) : Option Flag :=
    (Text.similarTo name (s.flags.map Flag.name)).getLast?.bind s.flagOfName?
  match meant scope with
  | some f => some (.flag f)
  | none =>
    if scope = .program then
      let found := Scope.commands.filterMap fun s => do
        let f ← meant s
        let command ← s.commandName?
        let place ← behind.findIdx? (· = command)
        pure (place, Hint.flagOf command f)
      (found.mergeSort fun a b => a.1 ≤ b.1).head?.map Prod.snd
    else none

/-- Reads an option with its value behind it, or a switch. -/
def readFlag (scope : Scope) (r : Reading) (f : Flag) (value? : Option Text) :
    Except Stop Reading :=
  match f, f.valueName?, value? with
  | _, none, some value => .error (.error (.unexpectedValue scope f value r.flags))
  | f, some _, some value => do
    let settled ← (r.settle scope).mapError .error
    (settled.accept scope f value).mapError .error
  | f, some _, none => do
    let settled ← (r.settle scope).mapError .error
    return { settled with pending? := some (f, none) }
  | .help, none, none => do
    let _ ← (r.settle scope).mapError .error
    .error (.help scope)
  | .version, none, none => do
    let _ ← (r.settle scope).mapError .error
    .error .version
  | f, none, none => do
    let settled ← (r.settle scope).mapError .error
    (settled.accept scope f []).mapError .error

/-- Reads an argument that starts with two hyphens. -/
def readLong (scope : Scope) (r : Reading) (t : Text) (behind : List Text) :
    Except Stop Reading :=
  let (name, value?) := Text.cut '=' t
  match scope.flagOfName? name with
  | some f => readFlag scope r f value?
  | none =>
    .error (.error (.unknownArgument scope ("--".toList ++ name) (hintFor scope name behind)
      (r.settledFlags scope)))

/-- Reads an argument that starts with one hyphen. A value may follow the letter directly. -/
def readShort (scope : Scope) (r : Reading) (letter : Char) (t : Text) : Except Stop Reading :=
  match scope.flagOfLetter? letter with
  | some f =>
    if f.valueName?.isSome then
      readFlag scope r f (if t.isEmpty then none else some (t.withoutFirst '='))
    else readFlag scope r f none
  | none => .error (.error (.unknownArgument scope ['-', letter] none []))

/-- The error of an argument that is neither an option nor a value. -/
def strayError (scope : Scope) (isBehindHyphens : Bool) (argument : Text) : UsageError :=
  if scope = .program then
    if isBehindHyphens && (Scope.ofName? argument).isSome then
      .unknownArgument scope argument (some (.command argument)) []
    else
      .unknownCommand scope argument
        (Text.similarTo argument (Scope.commands.filterMap Scope.commandName?))
  else .unknownArgument scope argument none []

def readArguments (scope : Scope) : Reading → List Text → Except Stop Reading
  | r, [] => (r.settle scope).mapError .error
  | r, argument :: rest =>
    match r.awaiting?.filter Flag.takesAnything, argument with
    | some f, value => readArguments scope (r.supply f value) rest
    | none, ['-', '-'] =>
      match rest with
      | [] => (r.settle scope).mapError .error
      | stray :: _ => .error (.error (strayError scope true stray))
    | none, '-' :: '-' :: t => do readArguments scope (← readLong scope r t rest) rest
    | none, '-' :: letter :: t => do readArguments scope (← readShort scope r letter t) rest
    | none, argument =>
      match r.awaiting? with
      | some f => readArguments scope (r.supply f argument) rest
      | none => .error (.error (strayError scope false argument))

/-- The scope that help is asked for by the names behind the help command. -/
def helpScope (scope : Scope) : List Text → Except UsageError Scope
  | [] => .ok scope
  | name :: rest =>
    match scope, Scope.ofName? name with
    | .program, some s => helpScope s rest
    | _, _ => .error (.unknownCommand scope name [])

/-- The options of the setup command. The environment gives the release address where no option
does, and has to be text then. -/
def setupOptions (environmentUrl? : Option Bytes) (r : Reading) :
    Except UsageError SetupOptions := do
  let releaseUrl? ←
    match r.value? .releaseUrl, environmentUrl? with
    | some url, _ => .ok (some url)
    | none, none => .ok none
    | none, some bytes =>
      match Text.Utf8.decode? bytes with
      | some url => .ok (some url)
      | none => .error (.notText .setup)
  return ⟨r.value? .os, r.value? .destination, releaseUrl?⟩

def snippetsOptions (r : Reading) : SnippetsOptions :=
  ⟨(r.value? .input).getD Listing.defaultPath, (r.value? .json).isSome⟩

/-- The command of some arguments, in an environment with the given release address. -/
def read (environmentUrl? : Option Bytes) : List Text → Except Stop Command
  | [] => .error (.error .noCommand)
  | first :: rest =>
    match Scope.ofName? first with
    | some .setup => do
      let r ← readArguments .setup .start rest
      return .setup (← (setupOptions environmentUrl? r).mapError .error)
    | some .snippets => do
      let r ← readArguments .snippets .start rest
      return .snippets (snippetsOptions r)
    | some _ =>
      match helpScope .program rest with
      | .ok scope => .error (.help scope)
      | .error e => .error (.error e)
    | none => do
      let _ ← readArguments .program .start (first :: rest)
      .error (.error .noCommand)

end ShaderTools.CommandLine
