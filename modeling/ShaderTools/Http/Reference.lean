import ShaderTools.Http.Segments
import ShaderTools.Http.Url

/-!
References from one place on a server to another, as redirections give them. Reading them is
strict: a character that may not stand for itself makes a text no reference. A reference is
resolved against the place that it was found at; a fragment does not count.
-/

namespace ShaderTools.Http

/-- A reference, each part as it was written. -/
structure Reference where
  scheme? : Option Text
  authority? : Option Text
  path : Text
  query? : Option Text
  deriving DecidableEq, Repr

namespace Reference

/-- The characters that always stand for themselves. -/
def isUnreserved (c : Char) : Bool := c.isAlphanum || c ∈ "-._~".toList

/-- The characters that separate parts inside a part. -/
def isSubDelimiter (c : Char) : Bool := c ∈ "!$&'()*+,;=".toList

/-- Whether a character may stand in a path. -/
def isPathCharacter (c : Char) : Bool :=
  isUnreserved c || isSubDelimiter c || c ∈ ":@/".toList

/-- Whether a character may stand in a query or a fragment. -/
def isQueryCharacter (c : Char) : Bool := isPathCharacter c || c = '?'

/-- Whether a character may stand in a user name or password. -/
def isLoginCharacter (c : Char) : Bool := isUnreserved c || isSubDelimiter c || c = ':'

/-- Whether a character may stand in the name of a host. -/
def isHostCharacter (c : Char) : Bool := isUnreserved c || isSubDelimiter c

/-- Whether a text holds only characters of a kind and bytes that are percent-encoded. -/
def isEncoded (isPlain : Char → Bool) : Text → Bool
  | [] => true
  | '%' :: high :: low :: rest =>
    (hexValue? high).isSome && (hexValue? low).isSome && isEncoded isPlain rest
  | c :: rest => isPlain c && isEncoded isPlain rest

/-- Whether a text in brackets is an address: one of IPv6, or one of a later version, which is told
by its number. -/
def isLiteral (t : Text) : Bool :=
  match Text.cut '.' t with
  | (v :: version, some address) =>
    (Ipv6.ofText? t).isSome
      || v.toLower = 'v' && !version.isEmpty && version.all (hexValue? · |>.isSome)
        && !address.isEmpty && address.all fun c => isHostCharacter c || c = ':'
  | _ => (Ipv6.ofText? t).isSome

/-- Whether a text names a port, if it names anything. -/
def isPort : Text → Bool
  | [] => true
  | c :: rest => c = ':' && rest.all Char.isDigit

/-- Whether a text names a host, with or without a port. -/
def isServer : Text → Bool
  | '[' :: rest =>
    isLiteral (Text.cut ']' rest).1 && ((Text.cut ']' rest).2.map isPort).getD false
  | t => isEncoded isHostCharacter (t.takeWhile (· ≠ ':')) && isPort (t.dropWhile (· ≠ ':'))

/-- Whether a text names a server, with or without a login. -/
def isAuthority (t : Text) : Bool :=
  match Text.cut '@' t with
  | (login, some server) => isEncoded isLoginCharacter login && isServer server
  | (server, none) => isServer server

def isScheme : Text → Bool
  | [] => false
  | c :: rest => c.isAlpha && rest.all fun d => d.isAlphanum || d ∈ "+-.".toList

/-- The scheme of a text that has one, and what follows. A colon in the first segment belongs to a
scheme. -/
def schemeOfText? (t : Text) : Option (Option Text × Text) :=
  if ':' ∈ t.takeWhile (· ≠ '/') then
    let scheme := (Text.cut ':' t).1
    if isScheme scheme then some (some scheme, (Text.cut ':' t).2.getD []) else none
  else some (none, t)

/-- The authority of a text that has one, and the path. -/
def authorityOfText (t : Text) : Option Text × Text :=
  if ['/', '/'].isPrefixOf t then
    (some ((t.drop 2).takeWhile (· ≠ '/')), (t.drop 2).dropWhile (· ≠ '/'))
  else (none, t)

def ofText? (t : Text) : Option Reference := do
  let (beforeFragment, fragment?) := Text.cut '#' t
  let (beforeQuery, query?) := Text.cut '?' beforeFragment
  let (scheme?, rest) ← schemeOfText? beforeQuery
  let (authority?, path) := authorityOfText rest
  if isEncoded isQueryCharacter (fragment?.getD []) && isEncoded isQueryCharacter (query?.getD [])
      && ((authority?.map isAuthority).getD true) && isEncoded isPathCharacter path then
    some ⟨scheme?, authority?, path, query?⟩
  else none

/-- What segments stand for in a reference. -/
def segmentRules : SegmentRules := ⟨(· = ".".toList), (· = "..".toList), fun _ => false⟩

/-- A path with its dots carried out. -/
def settlePath (path : Text) : Text :=
  if path.head? = some '/' then
    pathOfSegments (segmentRules.settle (Text.split (· = '/') (path.drop 1)))
  else path

/-- A relative path in the place of the last segment of another path. -/
def mergePath (base : Reference) (path : Text) : Text :=
  if base.authority?.isSome && base.path.isEmpty then '/' :: path
  else Text.dropEndWhile (· ≠ '/') base.path ++ path

/-- Where a reference leads that was found at a place. -/
def resolve (base r : Reference) : Reference :=
  if r.scheme?.isSome then { r with path := settlePath r.path }
  else if r.authority?.isSome then { r with scheme? := base.scheme?, path := settlePath r.path }
  else if r.path.isEmpty then
    { base with query? := r.query? <|> base.query? }
  else
    { base with
      path := settlePath (if r.path.head? = some '/' then r.path else mergePath base r.path)
      query? := r.query? }

def text (r : Reference) : Text :=
  (r.scheme?.map (· ++ [':'])).getD [] ++ (r.authority?.map (['/', '/'] ++ ·)).getD [] ++ r.path
    ++ (r.query?.map ('?' :: ·)).getD []

/-- A resolved reference with the path that a server is asked for, if it can be asked for: it is not
too long, a server has a name, and a reference that names no server is a login at best. -/
def request? (r : Reference) : Option Reference :=
  if Url.lengthLimit < r.text.length then none
  else
    match r.authority? with
    | some [] => none
    | some _ => some { r with path := if r.path.isEmpty then ['/'] else r.path }
    | none => if '/' ∈ r.path ∨ r.query?.isSome then none else some r

/-- What a server is asked for. -/
def target (r : Reference) : Text := r.path ++ (r.query?.map ('?' :: ·)).getD []

end Reference

end ShaderTools.Http
