import ShaderTools.Http.Host

/-!
Addresses of the web, as they are shown: scheme and host in lower case, no default port, dots
carried out, and every character that may not stand for itself percent-encoded. Addresses of other
schemes are known as well, so that they can be named when they are refused.
-/

namespace ShaderTools.Http

/-- An address, each part as it is shown. -/
structure Url where
  scheme : Text
  /-- User name and password with the at sign behind them, empty if there are none. -/
  login : Text
  host? : Option Text
  /-- The port, unless it is the scheme's own. -/
  port? : Option Nat
  path : Text
  query? : Option Text
  fragment? : Option Text
  deriving DecidableEq, Repr

namespace Url

/-- The port that a scheme uses by itself. -/
def defaultPort? (scheme : Text) : Option Nat :=
  if scheme = "http".toList ∨ scheme = "ws".toList then some 80
  else if scheme = "https".toList ∨ scheme = "wss".toList then some 443
  else if scheme = "ftp".toList then some 21
  else none

/-- The scheme of files, whose host may be left out. -/
def fileScheme : Text := "file".toList

/-- Whether a scheme has the rules of the web: a backslash is a slash, and a host has a name. -/
def isSpecial (scheme : Text) : Bool := (defaultPort? scheme).isSome || scheme = fileScheme

/-- Whether archives can be asked for by a scheme. -/
def isSupported (scheme : Text) : Bool := scheme = "http".toList || scheme = "https".toList

def text (u : Url) : Text :=
  u.scheme ++ [':']
    ++ (match u.host? with
        | some host =>
          ['/', '/'] ++ u.login ++ host
            ++ (u.port?.map fun port => ':' :: Text.ofNat port).getD []
        | none => if ['/', '/'].isPrefixOf u.path then ['/', '.'] else [])
    ++ u.path
    ++ (u.query?.map ('?' :: ·)).getD []
    ++ (u.fragment?.map ('#' :: ·)).getD []

/-- What a server is asked for. -/
def target (u : Url) : Text := u.path ++ (u.query?.map ('?' :: ·)).getD []

/-- The port that an address leads to. -/
def port (u : Url) : Nat := (u.port? <|> defaultPort? u.scheme).getD 0

/-- The address without user name and password, if these can be told: the user name has to spell a
text, and where it is empty, the password. -/
def withoutLogin (u : Url) : Url :=
  let (name, password?) := Text.cut ':' (Text.withoutLast '@' u.login)
  let spelled (t : Text) : Option Text := Text.Utf8.decode? (percentDecode t)
  match spelled name, password?.bind spelled with
  | none, _ => u
  | some [], none => u
  | _, _ => { u with login := [] }

def withoutFragment (u : Url) : Url := { u with fragment? := none }

/-- How long an address may be to be asked for. -/
def lengthLimit : Nat := 65534

/-- Whether a server can be asked for an address: it is not too long, and its host has none of the
characters that may only stand in names. -/
def isAskable (u : Url) : Bool :=
  u.text.length ≤ lengthLimit && !(u.host?.getD []).any (· ∈ "\"`\x7b\x7d".toList)

end Url

end ShaderTools.Http
