import ShaderTools.Http.Exchange

/-!
Exchanges as bytes on a connection that serves one request. An answer has a head of lines, ended by
an empty one, and a body that is delimited by an announced length, by chunks, or by the end of the
connection.
-/

namespace ShaderTools.Http

def Request.bytes (r : Request) : Bytes :=
  Text.Utf8.encode
    (r.method ++ ' ' :: r.target ++ " HTTP/1.1\r\nuser-agent: ".toList ++ r.userAgent
      ++ "\r\naccept: */*\r\nconnection: close\r\nhost: ".toList ++ r.host
      ++ (if r.port = 80 then [] else ':' :: Text.ofNat r.port)
      ++ "\r\n\r\n".toList)

namespace Wire

/-- The bytes before the first empty line, and those behind it. -/
def cutHead : Bytes → Option (Bytes × Bytes)
  | [] => none
  | 0x0d :: 0x0a :: 0x0d :: 0x0a :: rest => some ([], rest)
  | b :: rest => (cutHead rest).map fun (head, body) => (b :: head, body)

/-- The lines of a head. A byte stands for the character of its code. -/
def headLines (head : Bytes) : List Text :=
  (Text.split (· = '\n') (head.map fun b => Char.ofNat b.toNat)).map (Text.withoutLast '\r')

/-- Status and reason of the first line of a head. -/
def statusOfLine (line : Text) : Option (Nat × Text) := do
  let (version, rest?) := Text.cut ' ' line
  let (code, reason?) := Text.cut ' ' (← rest?)
  if "HTTP/1.".toList.isPrefixOf version && code.length = 3 then
    return (← Text.digitsValue? code, reason?.getD [])
  else none

def headerOfLine (line : Text) : Option (Text × Text) :=
  match Text.cut ':' line with
  | (name, some value) => some (name, value)
  | (_, none) => none

/-- The value of a number in hexadecimal, up to the first other character. -/
def chunkSize (line : Text) : Nat :=
  (line.map hexValue?).takeWhile Option.isSome |>.foldl (fun n d => 16 * n + d.getD 0) 0

/-- The data of chunks, and whether the last chunk came; at most `limit` chunks are read. -/
def chunks : (limit : Nat) → Bytes → Bytes × Bool
  | 0, _ => ([], false)
  | limit + 1, bytes =>
    let line := bytes.takeWhile (· ≠ 0x0a)
    let size := chunkSize (line.map fun b => Char.ofNat b.toNat)
    let data := (bytes.drop (line.length + 1)).take size
    if line.length = bytes.length ∨ data.length < size then (data, false)
    else if size = 0 then ([], true)
    else
      let (rest, isWhole) := chunks limit (bytes.drop (line.length + 1 + size + 2))
      (data ++ rest, isWhole)

/-- The answer with the body that the bytes behind its head hold. -/
def withBody (r : Response) (body : Bytes) : Response :=
  match r.header? "transfer-encoding".toList, r.header? "content-length".toList with
  | some _, _ =>
    let (data, isWhole) := chunks body.length body
    { r with sent := data, announced := if isWhole then data.length else data.length + 1 }
  | none, some length =>
    { r with sent := body, announced := (Text.digitsValue? length).getD body.length }
  | none, none => { r with sent := body, announced := body.length }

end Wire

/-- The answer that bytes are which were sent until the connection ended. -/
def Response.ofBytes (bytes : Bytes) : Except Silence Response :=
  match Wire.cutHead bytes with
  | none => .error .ended
  | some (head, body) =>
    match Wire.headLines head with
    | [] => .error .garbled
    | first :: rest =>
      match Wire.statusOfLine first with
      | none => .error .garbled
      | some (status, reason) =>
        .ok (Wire.withBody ⟨status, reason, rest.filterMap Wire.headerOfLine, 0, []⟩ body)

end ShaderTools.Http
