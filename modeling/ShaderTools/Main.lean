import ShaderTools.Http.Wire
import ShaderTools.Program
import Std.Async.DNS
import Std.Async.TCP

/-!
The program as the system runs it: every question of the script is put to the terminal, the file
system or the network, and the script goes on with the answer. No log is kept, and no other
compression than DEFLATE is decoded.
-/

namespace ShaderTools.Main

open Http (Request Response Silence)

/-- The number and the words of an error of the system. -/
def numberOf : IO.Error → Option (UInt32 × String)
  | .alreadyExists _ number words => some (number, words)
  | .otherError number words => some (number, words)
  | .resourceBusy number words => some (number, words)
  | .resourceVanished number words => some (number, words)
  | .unsupportedOperation number words => some (number, words)
  | .hardwareFault number words => some (number, words)
  | .unsatisfiedConstraints number words => some (number, words)
  | .illegalOperation number words => some (number, words)
  | .protocolError number words => some (number, words)
  | .timeExpired number words => some (number, words)
  | .interrupted _ number words => some (number, words)
  | .noFileOrDirectory _ number words => some (number, words)
  | .invalidArgument _ number words => some (number, words)
  | .permissionDenied _ number words => some (number, words)
  | .resourceExhausted _ number words => some (number, words)
  | .inappropriateType _ number words => some (number, words)
  | .noSuchThing _ number words => some (number, words)
  | .unexpectedEof => none
  | .userError _ => none

/-- The number of an error without its sign, which some operations of the system set. -/
def unsigned (number : UInt32) : Nat :=
  if number < 0x80000000 then number.toNat else (0 - number).toNat

/-- The failure that an error of the system is. -/
def failureOf (e : IO.Error) : Failure :=
  match numberOf e with
  | some (number, words) => .ofNumber (unsigned number) words.toList
  | none => .other 5 (toString e).toList

/-- What an action gives, or how it fails. -/
def attempt {α : Type} (action : IO α) : IO (Except Failure α) := do
  try return .ok (← action)
  catch e => return .error (failureOf e)

/-- Carries out a change. -/
def change : FileChange → IO Unit
  | .makeDirectories path => if path = [] then pure () else IO.FS.createDirAll (String.ofList path)
  | .overwrite path content =>
    IO.FS.writeBinFile (String.ofList path) (ByteArray.mk content.toArray)
  | .setMode path mode => IO.Prim.setAccessRights (String.ofList path) mode.toUInt32
  | .rename source target => IO.FS.rename (String.ofList source) (String.ofList target)
  | .removeDirectory path => IO.FS.removeDir (String.ofList path)

/-- The bytes of a line of the input, with its end. -/
partial def readLine (input : IO.FS.Stream) (line : Bytes) : IO Bytes := do
  let next ← input.read 1
  if next.isEmpty then return line.reverse
  else if next.toList = [0x0a] then return (0x0a :: line).reverse
  else readLine input (next.toList ++ line)

/-- The bytes that arrive until a connection ends. -/
partial def receive (client : Std.Async.TCP.Socket.Client) (bytes : ByteArray) :
    Std.Async.Async ByteArray := do
  match ← client.recv? 65536 with
  | some more => receive client (bytes ++ more)
  | none => return bytes

/-- Makes a request on a connection of its own. -/
def exchange (r : Request) : IO (Except Silence Response) := do
  if r.isSecure then return .error .noSecureTransport
  let found : Array Std.Net.IPAddr ← try
      Std.Async.DNS.getAddrInfo (String.ofList r.host) "" (some .ipv4) |>.block
    catch _ => pure #[]
  match found.toList with
  | .v4 address :: _ =>
    let client ← Std.Async.TCP.Socket.Client.mk
    let isConnected ← try
        (client.connect (.v4 ⟨address, r.port.toUInt16⟩)).block
        pure true
      catch _ => pure false
    if isConnected then
      try
        (client.send (ByteArray.mk r.bytes.toArray)).block
        return Response.ofBytes (← (receive client ByteArray.empty).block).toList
      catch _ => return .error .ended
    else return .error .refused
  | _ => return .error .unknownHost

def run {α : Type} : Script α → IO α
  | .done value => pure value
  | .write .output text next => do
    let output ← IO.getStdout
    output.putStr (String.ofList text)
    output.flush
    run next
  | .write .errors text next => do
    (← IO.getStderr).putStr (String.ofList text)
    run next
  | .event _ next => run next
  | .readLine next => do
    let line ← readLine (← IO.getStdin) []
    run (next line)
  | .readFile path next => do
    let content ← attempt (IO.FS.readBinFile (String.ofList path))
    run (next (content.map ByteArray.toList))
  | .workingPath next => do
    let path ← attempt IO.currentDir
    run (next (path.map fun p => p.toString.toList))
  | .change c next => do
    let result ← attempt (change c)
    run (next result)
  | .request r next => do
    let answer ← exchange r
    run (next answer)

/-- The environment variables that the program looks at. -/
def environment : IO (List (Text × Bytes)) :=
  [Release.addressVariable, Invocation.noColorVariable].filterMapM fun name => do
    let value? ← IO.getEnv (String.ofList name)
    return value?.map fun value => (name, Text.Utf8.encode value.toList)

end ShaderTools.Main

attribute [local instance] ShaderTools.Archive.Decoders.absent

/-- Runs the program for the command line. -/
def main (arguments : List String) : IO UInt32 := do
  let invocation : ShaderTools.Invocation :=
    { arguments := arguments.map String.toList
      environment := ← ShaderTools.Main.environment
      isTerminal := ← (← IO.getStdout).isTty }
  let exit ← ShaderTools.Main.run invocation.script
  return exit.toUInt32
