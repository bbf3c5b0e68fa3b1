import ShaderTools.Http.Ipv6
import ShaderTools.Http.Name

/-!
The hosts of addresses: names, which are shown in ASCII and in lower case, IPv4 addresses, which may
be given by one to four numbers in decimal, octal or hexadecimal and are shown by four decimal ones,
and IPv6 addresses in brackets. A name whose last label looks like a number has to be an IPv4
address.
-/

namespace ShaderTools.Http

/-- Why a text is no address. -/
inductive UrlFault where
  | relativeWithoutBase
  | emptyHost
  | invalidPort
  | invalidName
  | invalidHostCharacter
  | invalidIpv4
  | invalidIpv6
  deriving DecidableEq, Repr

def UrlFault.message : UrlFault → Text
  | relativeWithoutBase => "relative URL without a base".toList
  | emptyHost => "empty host".toList
  | invalidPort => "invalid port number".toList
  | invalidName => "invalid international domain name".toList
  | invalidHostCharacter => "invalid domain character".toList
  | invalidIpv4 => "invalid IPv4 address".toList
  | invalidIpv6 => "invalid IPv6 address".toList

namespace Host

/-- The characters that no host holds. -/
def isForbidden (c : Char) : Bool :=
  c ∈ "\x00\t\n\r #/:<>?@[\\]^|".toList

/-- Whether a character may stand in a name. -/
def isNameCharacter (c : Char) : Bool :=
  0x20 < c.toNat && c.toNat < 0x7f && !isForbidden c && c ≠ '%'

/-- The value of digits in a base; zero if there are none. -/
def valueInBase? (base : Nat) (digits : Text) : Option Nat :=
  digits.foldlM (fun n c => do
    let d ← Text.digitValue? c
    if d < base then some (base * n + d) else none) 0

/-- The value of a number in an IPv4 address: hexadecimal behind `0x`, octal behind `0`. -/
def ipv4Number? : Text → Option Nat
  | [] => none
  | '0' :: 'x' :: digits => valueInBase? 16 digits
  | '0' :: digits => valueInBase? 8 digits
  | digits => valueInBase? 10 digits

/-- The labels of a name; a dot at its end adds none. -/
def labels (name : Text) : List Text :=
  let pieces := Text.split (· = '.') name
  if pieces.getLast? = some [] then pieces.dropLast else pieces

/-- Whether the last label of a name looks like a number. -/
def endsInNumber (name : Text) : Bool :=
  match (labels name).getLast? with
  | some last => (!last.isEmpty && last.all Char.isDigit) || (ipv4Number? last).isSome
  | none => false

/-- The address of some numbers: the last one fills all places that the others leave. -/
def ipv4OfNumbers? (numbers : List Nat) : Option Nat :=
  match numbers.getLast? with
  | none => none
  | some last =>
    let high := numbers.dropLast
    if 4 < numbers.length ∨ high.any (255 < ·) ∨ 0x100000000 >>> (8 * high.length) ≤ last then none
    else some (high.foldr (fun n rest => n * 0x1000000 + rest / 256) 0 + last)

/-- An IPv4 address by four decimal numbers. -/
def ipv4Text (address : Nat) : Text :=
  List.intercalate ['.'] ([24, 16, 8, 0].map fun shift => Text.ofNat ((address >>> shift) % 256))

def ofName (name : Text) : Except UrlFault Text :=
  if name.isEmpty then .error .emptyHost
  else if !name.all isNameCharacter then .error .invalidName
  else if endsInNumber name then
    match ((labels name).mapM ipv4Number?).bind ipv4OfNumbers? with
    | some address => .ok (ipv4Text address)
    | none => .error .invalidIpv4
  else .ok name

def ofBrackets (t : Text) : Except UrlFault Text :=
  match t.getLast?, Ipv6.ofText? (t.drop 1).dropLast with
  | some ']', some groups => .ok (['['] ++ Ipv6.text groups ++ [']'])
  | _, _ => .error .invalidIpv6

/-- The host that a text names. -/
def ofText (t : Text) : Except UrlFault Text :=
  if t.head? = some '[' then ofBrackets t
  else
    match (Text.Utf8.decode? (percentDecode t)).bind asciiName? with
    | some name => ofName name
    | none => .error .invalidName

/-- The host that a text names where the scheme has no rules for names. -/
def opaqueOfText (t : Text) : Except UrlFault Text :=
  if t.head? = some '[' then ofBrackets t
  else if t.any isForbidden then .error .invalidHostCharacter
  else .ok (percentEncode (fun _ => false) t)

end Host

end ShaderTools.Http
