import ShaderTools.Http.Percent
import ShaderTools.Http.Segments

/-!
The paths of addresses. The segments of a path may be left through double dots, but for a segment
that names a drive: a letter and a colon or a bar. The path of a file that starts with a drive may
show it with a colon.
-/

namespace ShaderTools.Http.Url

/-- The characters that are percent-encoded in a fragment. -/
def isReservedInFragment (c : Char) : Bool := c ∈ " \"<>`".toList

/-- The characters that are percent-encoded in a path. -/
def isReservedInPath (c : Char) : Bool := isReservedInFragment c || c ∈ "#?\x7b\x7d".toList

/-- Whether a character is a slash, for which a backslash may stand. -/
def isSlash (mayBeBackslash : Bool) (c : Char) : Bool := c = '/' || mayBeBackslash && c = '\\'

/-- Whether a segment stands for the place itself. -/
def isDot (segment : Text) : Bool := segment.map Char.toLower ∈ [".".toList, "%2e".toList]

/-- Whether a segment stands for the place above. -/
def isDoubleDot (segment : Text) : Bool :=
  segment.map Char.toLower
    ∈ ["..".toList, ".%2e".toList, "%2e.".toList, "%2e%2e".toList]

def isDrive : Text → Bool
  | [letter, mark] => letter.isAlpha && (mark = ':' || mark = '|')
  | _ => false

/-- Whether a segment names a drive, at least up to a character that may separate segments. -/
def startsWithDrive (segment : Text) : Bool :=
  isDrive (segment.takeWhile (· ∉ ['/', '\\', '?', '#']))

/-- What segments stand for in an address. -/
def segmentRules : SegmentRules := ⟨isDot, isDoubleDot, startsWithDrive⟩

/-- The segments of a path, whose first slash may be left out. -/
def segmentsOfText (mayBeBackslash : Bool) (t : Text) : List Text :=
  let isSlash := isSlash mayBeBackslash
  let relative := if (t.head?.map isSlash).getD false then t.drop 1 else t
  (segmentRules.settle (Text.split isSlash relative)).map (percentEncode isReservedInPath)

def pathOfText (mayBeBackslash : Bool) (t : Text) : Text :=
  pathOfSegments (segmentsOfText mayBeBackslash t)

/-- Segments of which the first one shows a drive with a colon. -/
def showDrive : List Text → List Text
  | [letter, _] :: rest => [letter, ':'] :: rest
  | segments => segments

/-- The path of a file with some segments, with one slash at the start. -/
def filePath (segments : List Text) : Text := '/' :: (pathOfSegments segments).dropWhile (· = '/')

end ShaderTools.Http.Url
