import ShaderTools.Http.Url
import ShaderTools.Http.Url.Path

/-!
Reading addresses. It is lenient: what cannot stand for itself is percent-encoded, and slashes may
be missing or be too many where the scheme has the rules of the web.
-/

namespace ShaderTools.Http.Url

/-- The characters that are percent-encoded in a user name or password. -/
def isReservedInLogin (c : Char) : Bool := isReservedInPath c || c ∈ "/:;=@[\\]^|".toList

/-- The characters that are percent-encoded in a query. -/
def isReservedInQuery (special : Bool) (c : Char) : Bool :=
  c ∈ " \"#<>".toList || special && c = '\''

/-- A text without controls and spaces at its ends, and without tabs and line ends. -/
def clean (t : Text) : Text :=
  (Text.dropEndWhile (· ≤ ' ') (t.dropWhile (· ≤ ' '))).filter fun c =>
    c ≠ '\t' ∧ c ≠ '\n' ∧ c ≠ '\r'

/-- Whether a character may stand in a scheme behind its first letter. -/
def isSchemeCharacter (c : Char) : Bool := c.isAlphanum || c ∈ ['+', '-', '.']

/-- The scheme that a text starts with, and what follows its colon. -/
def scheme? (t : Text) : Option (Text × Text) :=
  match Text.cut ':' t with
  | (c :: rest, some behind) =>
    if c.isAlpha && rest.all isSchemeCharacter then some ((c :: rest).map Char.toLower, behind)
    else none
  | _ => none

/-- The user name and password of a text. -/
def loginOfText (t : Text) : Text :=
  let name := percentEncode isReservedInLogin (Text.cut ':' t).1
  let password := percentEncode isReservedInLogin ((Text.cut ':' t).2.getD [])
  if name.isEmpty && password.isEmpty then []
  else name ++ (if password.isEmpty then [] else ':' :: password) ++ ['@']

/-- The text before the last at sign that stands before a slash, if there is one, and what
follows. -/
def cutLogin (special : Bool) (t : Text) : Option Text × Text :=
  let server := t.takeWhile (!isSlash special ·)
  match Text.split (· = '@') server with
  | [_] => (none, t)
  | pieces =>
    let login := List.intercalate ['@'] pieces.dropLast
    (some login, t.drop (login.length + 1))

/-- The text of a host, which ends at a slash or at a colon outside brackets, and what follows. -/
def cutHost (special : Bool) : (inBrackets : Bool) → Text → Text × Text
  | _, [] => ([], [])
  | inBrackets, c :: rest =>
    if isSlash special c ∨ (c = ':' ∧ !inBrackets) then ([], c :: rest)
    else
      let inBrackets := if c = '[' then true else if c = ']' then false else inBrackets
      let (host, behind) := cutHost special inBrackets rest
      (c :: host, behind)

/-- The port that follows a host, unless it is the scheme's own, and what follows it. -/
def cutPort (scheme : Text) : Text → Except UrlFault (Option Nat × Text)
  | ':' :: rest =>
    let behind := rest.dropWhile Char.isDigit
    if (behind.head?.map (!isSlash true ·)).getD false then .error .invalidPort
    else
      match Text.digitsValue? (rest.takeWhile Char.isDigit) with
      | none => .ok (none, behind)
      | some port =>
        if 65535 < port then .error .invalidPort
        else .ok (if defaultPort? scheme = some port then none else some port, behind)
  | rest => .ok (none, rest)

/-- The address of what follows two slashes. A host may be empty only if the scheme does not have
the rules of the web, and neither login nor port stand beside it; an at sign alone counts as a login
unless nothing follows it. -/
def ofServer (scheme : Text) (isWhole : Bool) (t : Text) : Except UrlFault Url := do
  let special := isSpecial scheme
  let (loginText?, behindLogin) := cutLogin special t
  let (hostText, behindHost) := cutHost special false behindLogin
  let login := loginOfText (loginText?.getD [])
  let isLoginAlone := loginText? = some [] && !(behindHost.isEmpty && isWhole)
  if hostText.isEmpty ∧ (special ∨ isLoginAlone ∨ behindHost.head? = some ':') then
    throw .emptyHost
  let host ← if special then Host.ofText hostText else Host.opaqueOfText hostText
  let (port?, rest) ← cutPort scheme behindHost
  if hostText.isEmpty ∧ login ≠ [] then throw .emptyHost
  let path := if rest.isEmpty && !special then [] else pathOfText special rest
  return ⟨scheme, login, some host, port?, path, none, none⟩

/-- The address of a file on a host, with the segments of its path. -/
def ofFilePath (host : Text) (segments : List Text) : Url :=
  ⟨fileScheme, [], some host, none, filePath segments, none, none⟩

/-- The address of a file whose path may start with a drive, which is on no host. -/
def ofDrivePath (host : Text) (segments : List Text) : Url :=
  if (segments.head?.map isDrive).getD false then ofFilePath [] (showDrive segments)
  else ofFilePath host segments

/-- The address of what follows the scheme of files. The local host is shown as none. Where a host
is left out between its slashes, a drive stays as it is written. -/
def ofFile (rest : Text) : Except UrlFault Url := do
  if (rest.takeWhile (isSlash true)).length < 2 then
    return ofDrivePath [] (segmentsOfText true rest)
  let behind := rest.drop 2
  let hostText := behind.takeWhile (!isSlash true ·)
  if isDrive hostText then return ofDrivePath [] (segmentsOfText true behind)
  let host ← if hostText.isEmpty then pure [] else Host.ofText hostText
  let segments := segmentsOfText true (behind.drop hostText.length)
  if host.isEmpty ∨ host = "localhost".toList then return ofFilePath [] segments
  return ofDrivePath host segments

/-- The address of what follows a scheme, up to query and fragment; it is whole if there are
none. -/
def ofRest (scheme : Text) (isWhole : Bool) (rest : Text) : Except UrlFault Url :=
  if scheme = fileScheme then ofFile rest
  else if isSpecial scheme then ofServer scheme isWhole (rest.dropWhile (isSlash true))
  else
    match rest with
    | '/' :: '/' :: behind => ofServer scheme isWhole behind
    | '/' :: _ => .ok ⟨scheme, [], none, none, pathOfText false rest, none, none⟩
    | _ => .ok ⟨scheme, [], none, none, percentEncode (fun _ => false) rest, none, none⟩

/-- The address that a text names. -/
def ofText (t : Text) : Except UrlFault Url := do
  let (beforeFragment, fragment?) := Text.cut '#' (clean t)
  let (beforeQuery, query?) := Text.cut '?' beforeFragment
  match scheme? beforeQuery with
  | none => .error .relativeWithoutBase
  | some (scheme, rest) =>
    let u ← ofRest scheme (query?.isNone && fragment?.isNone) rest
    return { u with
      query? := query?.map (percentEncode (isReservedInQuery (isSpecial scheme)))
      fragment? := fragment?.map (percentEncode isReservedInFragment) }

end ShaderTools.Http.Url
