import ShaderTools.Text.Basic

/-!
The options of the program and of its commands. An option either takes a value or is a switch.
-/

namespace ShaderTools.CommandLine

/-- Where arguments are read: for the program as a whole, or for one of its commands. -/
inductive Scope where
  | program
  | setup
  | snippets
  | help
  deriving DecidableEq, Repr

/-- An option. -/
inductive Flag where
  | os
  | destination
  | releaseUrl
  | input
  | json
  | help
  | version
  deriving DecidableEq, Repr

def programName : Text := "mcglsl".toList

namespace Scope

/-- The command that has a scope. -/
def commandName? : Scope → Option Text
  | program => none
  | setup => some "setup".toList
  | snippets => some "snippets".toList
  | help => some "help".toList

def commands : List Scope := [setup, snippets, help]

/-- The scope of a command's name. -/
def ofName? (name : Text) : Option Scope :=
  commands.find? fun scope => scope.commandName? = some name

def flags : Scope → List Flag
  | program => [.help, .version]
  | setup => [.os, .destination, .releaseUrl, .help]
  | snippets => [.input, .json, .help]
  | help => []

end Scope

namespace Flag

/-- The long name of an option, without its hyphens. -/
def name : Flag → Text
  | os => "os".toList
  | destination => "dest".toList
  | releaseUrl => "release-url".toList
  | input => "input".toList
  | json => "json".toList
  | help => "help".toList
  | version => "version".toList

/-- The short name of an option that has one. -/
def letter? : Flag → Option Char
  | input => some 'i'
  | help => some 'h'
  | version => some 'V'
  | _ => none

/-- The name of an option's value, unless it is a switch. -/
def valueName? : Flag → Option Text
  | os => some "OS".toList
  | destination => some "DEST".toList
  | releaseUrl => some "RELEASE_URL".toList
  | input => some "INPUT".toList
  | _ => none

/-- Whether the argument behind an option is its value whatever it looks like. -/
def takesAnything (f : Flag) : Bool := f = os

/-- Whether the value of an option may be empty. A path may not. -/
def mayBeEmpty : Flag → Bool
  | destination => false
  | input => false
  | _ => true

/-- An option as it is told in messages. -/
def shown (f : Flag) : Text :=
  ['-', '-'] ++ f.name ++ (f.valueName?.map fun v => " <".toList ++ v ++ ['>']).getD []

end Flag

/-- The option of a scope that has a long name. -/
def Scope.flagOfName? (scope : Scope) (name : Text) : Option Flag :=
  scope.flags.find? fun f => f.name = name

/-- The option of a scope that has a short name. -/
def Scope.flagOfLetter? (scope : Scope) (letter : Char) : Option Flag :=
  scope.flags.find? fun f => f.letter? = some letter

end ShaderTools.CommandLine
