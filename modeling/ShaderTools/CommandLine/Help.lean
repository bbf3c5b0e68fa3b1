import ShaderTools.CommandLine.Reading
import ShaderTools.Terminal.Markup

/-!
What the program tells about its command line: the help of each scope, the version, and the
messages for arguments that are not understood.
-/

namespace ShaderTools.CommandLine

open Terminal (Markup)
open Terminal.Markup (plain typed heading)

/-! ### Usage -/

def Scope.about : Scope → Text
  | program => "mcglsl - glslangValidator setup and shader snippet tooling".toList
  | setup => "Download glslangValidator and install it into a directory".toList
  | snippets => "Print completion snippets for the uniforms in a shader listing".toList
  | help => "Print this message or the help of the given subcommand(s)".toList

def Scope.words (scope : Scope) : Text :=
  programName ++ (scope.commandName?.map (' ' :: ·)).getD []

/-- What may follow the words of a scope. -/
def Scope.arguments : Scope → Text
  | program => " <COMMAND>".toList
  | setup => " [OPTIONS]".toList
  | snippets => " [OPTIONS]".toList
  | help => " [COMMAND]...".toList

def Scope.usage (scope : Scope) : Markup :=
  heading "Usage:".toList ++ plain [' '] ++ typed scope.words ++ plain scope.arguments

/-- How a scope is used with some options that were given or may have been meant. -/
def Scope.usageWith (scope : Scope) (given : List Flag) : Markup :=
  if given.isEmpty then scope.usage
  else
    heading "Usage:".toList ++ plain [' '] ++ typed scope.words
      ++ plain (given.flatMap fun f => ' ' :: f.shown)
      ++ (if scope = .program then plain scope.arguments else [])

/-! ### Help -/

/-- What an option does, in an environment with the given release address. -/
def Flag.about (environmentUrl? : Option Bytes) : Flag → Text
  | os => "Platform code (0: Windows, 1: Linux, 2: OSX); prompts when omitted".toList
  | destination => "Directory to install into (defaults to the current directory)".toList
  | releaseUrl =>
    "Base URL of the glslang release assets (defaults to the master-tot release) [env: ".toList
      ++ Release.addressVariable ++ '=' :: Text.Utf8.decodeLossy (environmentUrl?.getD []) ++ [']']
  | input => "Uniform listing to read [default: ".toList ++ Listing.defaultPath ++ [']']
  | json => "Emit a JSON array instead of snippet blocks".toList
  | help => "Print help".toList
  | version => "Print version".toList

/-- An option as it is told in a list of options. -/
def Flag.entry (f : Flag) : Markup :=
  (match f.letter? with
    | some letter => typed ['-', letter] ++ plain ", ".toList
    | none => plain "    ".toList)
  ++ typed ("--".toList ++ f.name)
  ++ (f.valueName?.map fun v => plain (" <".toList ++ v ++ ['>'])).getD []

/-- Lines of two columns, the first one as wide as its longest entry. -/
def columns (rows : List (Markup × Text)) : Markup :=
  let width := (rows.map fun row => row.1.text.length).foldr max 0
  rows.flatMap fun row =>
    plain "  ".toList ++ row.1
      ++ plain (List.replicate (width + 2 - row.1.text.length) ' ' ++ row.2 ++ ['\n'])

/-- A part of a help text, unless it has no lines. -/
def listOf (title : String) (rows : List (Markup × Text)) : Markup :=
  if rows.isEmpty then []
  else plain ['\n'] ++ heading title.toList ++ plain ['\n'] ++ columns rows

/-- The commands that the help of a scope lists. -/
def Scope.commandRows : Scope → List (Markup × Text)
  | program => commands.filterMap fun s => s.commandName?.map fun name => (typed name, s.about)
  | _ => []

def Scope.argumentRows : Scope → List (Markup × Text)
  | help => [(plain "[COMMAND]...".toList, "Print help for the subcommand(s)".toList)]
  | _ => []

def helpMarkup (environmentUrl? : Option Bytes) (scope : Scope) : Markup :=
  plain (scope.about ++ "\n\n".toList) ++ scope.usage ++ plain ['\n']
    ++ listOf "Commands:" scope.commandRows
    ++ listOf "Arguments:" scope.argumentRows
    ++ listOf "Options:" (scope.flags.map fun f => (f.entry, f.about environmentUrl?))

def versionText : Text := programName ++ ' ' :: version ++ ['\n']

/-! ### Errors -/

namespace UsageError

/-- Names in quotes, separated by commas. -/
def quotedNames (names : List Text) : Text :=
  List.intercalate ", ".toList (names.map fun name => '\'' :: name ++ ['\''])

def message : UsageError → Text
  | noCommand => []
  | unknownCommand _ name _ => "unrecognized subcommand ".toList ++ quotedNames [name]
  | unknownArgument _ argument _ _ =>
    "unexpected argument ".toList ++ quotedNames [argument] ++ " found".toList
  | missingValue f =>
    "a value is required for ".toList ++ quotedNames [f.shown]
      ++ " but none was supplied".toList
  | unexpectedValue _ f value _ =>
    "unexpected value ".toList ++ quotedNames [value] ++ " for ".toList ++ quotedNames [f.shown]
      ++ " found; no more were expected".toList
  | repeated _ f =>
    "the argument ".toList ++ quotedNames [f.shown] ++ " cannot be used multiple times".toList
  | notText _ => "invalid UTF-8 was detected in one or more arguments".toList

/-- What may have been meant. -/
def hint : UsageError → Text
  | unknownCommand _ _ [] => []
  | unknownCommand _ _ [name] => "a similar subcommand exists: ".toList ++ quotedNames [name]
  | unknownCommand _ _ names => "some similar subcommands exist: ".toList ++ quotedNames names
  | unknownArgument _ _ (some (.flag f)) _ =>
    "a similar argument exists: ".toList ++ quotedNames ["--".toList ++ f.name]
  | unknownArgument _ _ (some (.flagOf command f)) _ =>
    quotedNames [command ++ " --".toList ++ f.name] ++ " exists".toList
  | unknownArgument _ _ (some (.command name)) _ =>
    "subcommand ".toList ++ quotedNames [name]
      ++ " exists; to use it, remove the '--' before it".toList
  | _ => []

/-- How the scope of the error is used, where that is told. -/
def usage : UsageError → Text
  | unknownCommand scope _ _ => scope.usage.text
  | unknownArgument scope _ (some (.flag f)) given => (scope.usageWith (given ++ [f])).text
  | unknownArgument scope _ _ given => (scope.usageWith given).text
  | unexpectedValue scope _ _ given => (scope.usageWith given).text
  | repeated scope _ => scope.usage.text
  | notText scope => scope.usage.text
  | _ => []

/-- A paragraph of an error report, unless there is nothing to tell. -/
def paragraph (lead t : Text) : Text := if t.isEmpty then [] else "\n\n".toList ++ lead ++ t

/-- What is written for an error. Where no command is given, that is the help. -/
def report (environmentUrl? : Option Bytes) : UsageError → Text
  | noCommand => (helpMarkup environmentUrl? .program).text
  | e =>
    "error: ".toList ++ e.message ++ paragraph "  tip: ".toList e.hint ++ paragraph [] e.usage
      ++ "\n\nFor more information, try '--help'.\n".toList

end UsageError

end ShaderTools.CommandLine
