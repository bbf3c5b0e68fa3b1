import ShaderTools.Script

/-!
Downloading an archive. The address is asked for with one request, and with one more for each
redirection, of which ten are followed; a redirection without a usable place is an answer like any
other. An answer that blames client or server, a body that is cut short, and an empty body are
errors.
-/

namespace ShaderTools

open Http

/-- What goes wrong while an address is asked for. -/
inductive Http.Error where
  /-- The text is no address. -/
  | invalidUrl (fault : UrlFault)
  /-- A redirection, met on behalf of an address, leads to no address. -/
  | invalidRedirection (fault : UrlFault) (asked : Url)
  /-- The scheme is not one of the web. -/
  | unsupportedScheme (url : Url)
  /-- No server can be asked for the address. -/
  | unaskable (url : Url)
  /-- No answer came to a request that was made on behalf of an address. -/
  | unanswered (silence : Silence) (asked : Url)
  /-- One redirection too many was met at an address. -/
  | tooManyRedirections (url : Url)
  /-- The answer blames the client or the server. -/
  | refused (response : Response) (url : Url)
  /-- The body ended too early. -/
  | cutShort
  deriving DecidableEq, Repr

/-- Why there is no archive. -/
inductive Download.Error where
  | http (error : Http.Error)
  /-- The body is empty. The address is the text that was asked for. -/
  | emptyBody (address : Text)
  deriving DecidableEq, Repr

namespace Http.Error

/-- A wording with the address that it is about. -/
def about (what : Text) (url : Url) : Text := what ++ " for url (".toList ++ url.text ++ [')']

/-- The wording of an answer that blames someone. -/
def refusal (r : Response) : Text :=
  "HTTP status ".toList ++ (if r.isClientError then "client" else "server").toList
    ++ " error (".toList ++ Text.ofNat r.status ++ ' ' :: r.shownReason ++ [')']

/-- The wording of what went wrong. -/
def message : Http.Error → Text
  | invalidUrl _ => "builder error".toList
  | invalidRedirection _ asked => about "builder error".toList asked
  | unsupportedScheme url => about "builder error".toList url
  | unaskable url => about "builder error".toList url
  | unanswered _ asked => about "error sending request".toList asked
  | tooManyRedirections url => about "error following redirect".toList url
  | refused response url => about (refusal response) url
  | cutShort => "error decoding response body".toList

/-- The wordings of the causes, the outer ones first. -/
def causes : Http.Error → List Text
  | invalidUrl fault => [fault.message]
  | invalidRedirection fault _ => [fault.message]
  | unsupportedScheme _ => ["URL scheme is not allowed".toList]
  | unaskable _ => ["Parsed Url is not a valid Uri".toList]
  | unanswered silence _ => silence.causes
  | tooManyRedirections _ => ["too many redirects".toList]
  | refused _ _ => []
  | cutShort =>
    ["request or response body error".toList, "error reading a body from connection".toList,
      "end of file before message length reached".toList]

end Http.Error

def Download.Error.message : Download.Error → Text
  | http error => "HTTP error: ".toList ++ error.message
  | emptyBody address => "Empty response from ".toList ++ address

/-- The wordings of the causes of a download error, the outer ones first. -/
def Download.Error.causes : Download.Error → List Text
  | http error => error.message :: error.causes
  | emptyBody _ => []

namespace Download

/-- A place that is asked: its address, and the same as it was written, for what the server is asked
and for the references found there. -/
structure Place where
  url : Url
  written : Text
  target : Text

def Place.ofUrl (u : Url) : Place :=
  ⟨u.withoutFragment, u.withoutFragment.text, u.target⟩

/-- The place that a reference leads to, once it is resolved. -/
def Place.ofReference (r : Reference) : Except UrlFault Place :=
  (Url.ofText r.text).map fun u => ⟨u, r.text, r.target⟩

/-- Where an answer sends the client, if it does. -/
def redirection? (place : Place) (response : Response) : Option Reference := do
  if response.isRedirection then
    let base ← Reference.ofText? place.written
    let reference ← Reference.ofText? (← response.header? "location".toList)
    (base.resolve reference).request?
  else none

/-- Asks a place, and the places that it leads to; `left` more redirections are followed. -/
def follow (asked : Url) (left : Nat) (place : Place) :
    Script (Except Http.Error (Url × Response)) :=
  .request (.get place.url place.target) fun answer =>
    match answer.bind Response.final with
    | .error silence => .done (.error (.unanswered silence asked))
    | .ok response =>
      match redirection? place response with
      | none => .done (.ok (place.url, response))
      | some reference =>
        match Place.ofReference reference with
        | .error fault => .done (.error (.invalidRedirection fault asked))
        | .ok next =>
          match left with
          | 0 => .done (.error (.tooManyRedirections place.url))
          | left + 1 =>
            if Url.isSupported next.url.scheme then follow asked left next
            else .done (.error (.unsupportedScheme next.url))

/-- How many redirections are followed. -/
def redirectionLimit : Nat := 10

/-- What an answer at an address is worth to who asked for another one. -/
def archiveOf (address : Text) (url : Url) (response : Response) : Except Download.Error Bytes :=
  if response.isClientError || response.isServerError then .error (.http (.refused response url))
  else
    match response.body? with
    | none => .error (.http .cutShort)
    | some [] => .error (.emptyBody address)
    | some bytes => .ok bytes

end Download

/-- Fetches what lies at an address. -/
def Download.fetch (address : Text) : Script (Except Download.Error Bytes) :=
  match Url.ofText address with
  | .error fault => pure (.error (.http (.invalidUrl fault)))
  | .ok url =>
    let asked := url.withoutLogin
    if !Url.isSupported asked.scheme then pure (.error (.http (.unsupportedScheme asked)))
    else if !asked.isAskable then pure (.error (.http (.unaskable asked)))
    else do
      match ← Download.follow asked Download.redirectionLimit (.ofUrl asked) with
      | .error error => return .error (.http error)
      | .ok (final, response) => return Download.archiveOf address final response

/-- An address is about to be asked for. -/
def Download.fetching (address : Text) : Log.Event :=
  { level := .debug
    target := "mcglsl_core::fetch".toList
    message := "fetching release archive".toList
    fields := [("url".toList, address)] }

/-- An archive has arrived. -/
def Download.buffered (address : Text) (archive : Bytes) : Log.Event :=
  { level := .debug
    target := "mcglsl_core::fetch".toList
    message := "release archive buffered".toList
    fields := [("url".toList, address), ("len".toList, Text.ofNat archive.length)] }

/-- Downloads what lies at an address, and tells the log of it. -/
def download (address : Text) : Script (Except Download.Error Bytes) := do
  Script.log (Download.fetching address)
  match ← Download.fetch address with
  | .error error => return .error error
  | .ok archive =>
    Script.log (Download.buffered address archive)
    return .ok archive

theorem run_download (address : Text) (w : World) :
    (download address).run w = (Download.fetch address).run w := by
  simp only [download, Script.run_bind, Script.run_log]
  cases h : (Download.fetch address).run w with
  | mk result after => cases result <;> rfl

end ShaderTools
