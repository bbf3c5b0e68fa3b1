import ShaderTools.Text.Numeral

/-!
Why a file system refuses an operation. A failure that the system numbers is told with its number.
-/

namespace ShaderTools

/-- Why a file system refuses an operation. -/
inductive Failure where
  | notFound
  | permissionDenied
  | exists
  | notDirectory
  | isDirectory
  | invalidArgument
  | busy
  | nameTooLong
  | notEmpty
  | tooManyLinks
  /-- The path holds a NUL character. -/
  | nulInPath
  /-- The file holds bytes that are not UTF-8, where text was asked for. -/
  | notText
  /-- Any other failure that the system numbers. -/
  | other (number : Nat) (words : Text)
  deriving DecidableEq, Repr

namespace Failure

/-- The system's words for a failure, and its number if it has one. -/
def words : Failure → Text × Option Nat
  | notFound => ("No such file or directory".toList, some 2)
  | permissionDenied => ("Permission denied".toList, some 13)
  | .exists => ("File exists".toList, some 17)
  | notDirectory => ("Not a directory".toList, some 20)
  | isDirectory => ("Is a directory".toList, some 21)
  | invalidArgument => ("Invalid argument".toList, some 22)
  | busy => ("Device or resource busy".toList, some 16)
  | nameTooLong => ("File name too long".toList, some 36)
  | notEmpty => ("Directory not empty".toList, some 39)
  | tooManyLinks => ("Too many levels of symbolic links".toList, some 40)
  | nulInPath => ("file name contained an unexpected NUL byte".toList, none)
  | notText => ("stream did not contain valid UTF-8".toList, none)
  | other number words => (words, some number)

def message (f : Failure) : Text :=
  match f.words with
  | (text, none) => text
  | (text, some number) => text ++ " (os error ".toList ++ Text.ofNat number ++ [')']

/-- The failures that have a name of their own and a number. -/
def numbered : List Failure :=
  [notFound, permissionDenied, .exists, notDirectory, isDirectory, invalidArgument, busy,
    nameTooLong, notEmpty, tooManyLinks]

/-- The failure of a number, with the system's words for it. -/
def ofNumber (number : Nat) (words : Text) : Failure :=
  (numbered.find? fun f => f.words.2 = some number).getD (other number words)

end Failure

end ShaderTools
