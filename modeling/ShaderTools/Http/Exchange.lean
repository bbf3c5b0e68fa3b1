import ShaderTools.Http.Reference
import ShaderTools.Http.Url.Reading
import ShaderTools.Release

/-!
Requests and the answers to them. An answer announces how long its body is; what counts as its body
are the first bytes of what was sent, as many as were announced, and some answers have none whatever
they announce. A server is what answers the last of the requests made so far.
-/

namespace ShaderTools.Http

structure Request where
  method : Text
  isSecure : Bool
  host : Text
  port : Nat
  target : Text
  userAgent : Text
  deriving DecidableEq, Repr

/-- The request that gets a target from the server of an address. -/
def Request.get (u : Url) (target : Text) : Request :=
  { method := "GET".toList
    isSecure := u.scheme = "https".toList
    host := u.host?.getD []
    port := u.port
    target
    userAgent := ShaderTools.userAgent }

/-- An answer, with the length that it announces for its body and the bytes that were sent behind
its headers until the connection ended. -/
structure Response where
  status : Nat
  reason : Text
  headers : List (Text × Text)
  announced : Nat
  sent : Bytes
  deriving DecidableEq, Repr

/-- Why a request was not answered. -/
inductive Silence where
  /-- Nothing accepts connections. -/
  | refused
  /-- The host has no address. -/
  | unknownHost
  /-- A secure connection would be needed. -/
  | noSecureTransport
  /-- The connection ended before an answer. -/
  | ended
  /-- What came is no answer. -/
  | garbled
  deriving DecidableEq, Repr

/-- The wordings of the causes of a silence, the outer ones first. -/
def Silence.causes : Silence → List Text
  | refused =>
    ["client error (Connect)".toList, "tcp connect error".toList,
      "Connection refused (os error 111)".toList]
  | unknownHost =>
    ["client error (Connect)".toList, "dns error".toList,
      "failed to lookup address information: Name or service not known".toList]
  | noSecureTransport =>
    ["client error (Connect)".toList, "secure connections are not supported".toList]
  | ended =>
    ["client error (SendRequest)".toList, "connection closed before message completed".toList]
  | garbled => ["client error (SendRequest)".toList, "invalid HTTP status-code parsed".toList]

/-- What answers the last one of some requests, or why nothing does. -/
abbrev Server := List Request → Except Silence Response

namespace Response

/-- Whether an answer only says that another one will come. -/
def isInformational (r : Response) : Bool := 100 ≤ r.status && r.status < 200 && r.status ≠ 101

/-- Whether a character may stand in a reason phrase: no control may but a tab. -/
def isReasonCharacter (c : Char) : Bool := c = '\t' || 0x20 ≤ c.toNat && c.toNat ≠ 0x7f

/-- The answer, if it ends the exchange. -/
def final (r : Response) : Except Silence Response :=
  if r.status < 100 ∨ 999 < r.status ∨ r.reason.any (!isReasonCharacter ·) then .error .garbled
  else if r.isInformational then .error .ended
  else .ok r

/-- Whether an answer has no body, whatever it announces. -/
def isBodiless (r : Response) : Bool := r.status ∈ [101, 204, 304]

/-- The body of an answer, if all of it was sent. -/
def body? (r : Response) : Option Bytes :=
  if r.isBodiless then some []
  else if r.sent.length < r.announced then none
  else some (r.sent.take r.announced)

/-- Whether an answer blames the request. -/
def isClientError (r : Response) : Bool := 400 ≤ r.status && r.status < 500

/-- Whether an answer blames the server. -/
def isServerError (r : Response) : Bool := 500 ≤ r.status && r.status < 600

/-- Whether an answer may send the client to another place. -/
def isRedirection (r : Response) : Bool := r.status ∈ [301, 302, 303, 307, 308]

/-- Whether two names of headers are the same. -/
def sameHeader (a b : Text) : Bool := a.map Char.toLower = b.map Char.toLower

/-- The value of the first header of a name, without blanks around it. -/
def header? (r : Response) (name : Text) : Option Text :=
  (r.headers.find? fun h => sameHeader h.1 name).map fun h =>
    Text.dropEndWhile (· ∈ [' ', '\t']) (h.2.dropWhile (· ∈ [' ', '\t']))

/-- A character of a reason phrase, escaped. -/
def escapeReason (c : Char) : Text :=
  if c = '\t' then ['\\', 't'] else if c = '\\' ∨ c = '"' then ['\\', c] else [c]

/-- The reason phrase as it is told. One that is not ASCII is left out. -/
def shownReason (r : Response) : Text :=
  if r.reason.all (·.toNat < 0x80) then r.reason.flatMap escapeReason else []

end Response

end ShaderTools.Http
