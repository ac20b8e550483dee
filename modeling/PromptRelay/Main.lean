/-
**The program.**

Everything that touches the world is here: environment variables, files, input and output, the
clock, chance and the network. What is done with it is decided elsewhere. Only plain HTTP is spoken;
a server that wants more counts as one that cannot be reached.
-/

import PromptRelay.Command.Perform
import PromptRelay.Environment.File
import PromptRelay.Http.Wire
import Std.Async.DNS
import Std.Async.TCP
import Std.Async.Timer
import Std.Internal.UV.System
import Std.Time.DateTime.Timestamp

namespace PromptRelay.Program

open Std.Async Std.Net

/-- The bytes of a file, if it is there. -/
def readFile? (path : String) : IO (Option ByteArray) := do
  try return some (← IO.FS.readBinFile path) catch _ => return none

/-- The text of the first of some files that is there. -/
def readFirst? : List String → IO (Option String)
  | [] => return none
  | path :: paths => do
    match ← readFile? path with
    | some bytes => return some (Text.decode bytes.toList)
    | none => readFirst? paths

/-- The directories, this one first, in which a file of variables is looked for. -/
def variableFiles : List String :=
  (List.range 64).map fun height => String.join (List.replicate height "../") ++ ".env"

/-- The environment, with the nearest file of variables. -/
def readEnvironment : IO Environment := do
  let pairs ← Std.Internal.UV.System.osEnviron
  let environment : Environment := ⟨pairs.toList⟩
  match ← readFirst? variableFiles with
  | some text => return environment.withFile text
  | none => return environment

/-- The files that a configuration may be read from, and the environment. -/
def readSources : IO ConfigSources := do
  let files ← ConfigSources.paths.filterMapM fun path => do
    return (← readFile? path).map fun bytes => (path, Text.decode bytes.toList)
  return ⟨fun path => Json.fieldOf? path files, ← readEnvironment⟩

/-- All bytes of a stream. -/
def readAll (stream : IO.FS.Stream) : IO ByteArray := do
  let mut bytes := ByteArray.empty
  repeat
    let more ← stream.read 65536
    if more.isEmpty then break
    bytes := bytes ++ more
  return bytes

/-- All of the input. -/
def readInput : IO (Except String String) := do
  match String.fromUTF8? (← readAll (← IO.getStdin)) with
  | some text => return .ok text
  | none => return .error "stream did not contain valid UTF-8"

/-- A number of random bits. -/
def randomBits (bytes : Nat) : IO Nat := do
  let drawn ← IO.getRandomBytes bytes.toUSize
  return drawn.toList.foldl (fun number byte => number * 256 + byte.toNat) 0

/-- The present time. -/
def now : IO Timestamp := do
  let time ← Std.Time.Timestamp.now
  let nanoseconds := time.toNanosecondsSinceUnixEpoch.val
  return ⟨nanoseconds.fdiv 1000000000, (nanoseconds.fmod 1000000000).toNat⟩

/-- Where a host may be reached. -/
def addressesOf (url : Url) : Async (List SocketAddress) := do
  let found ← match IPv4Addr.ofString url.host with
    | some address => pure #[IPAddr.v4 address]
    | none =>
      let host := String.ofList (url.host.toList.filter fun mark => mark ∉ ['[', ']'])
      DNS.getAddrInfo host (toString url.portOf)
  return found.toList.map fun
    | .v4 address => .v4 ⟨address, url.portOf.toUInt16⟩
    | .v6 address => .v6 ⟨address, url.portOf.toUInt16⟩

/-- A connection to the first address that takes one. -/
def connect? : List SocketAddress → Async (Option TCP.Socket.Client)
  | [] => return none
  | address :: addresses => do
    try
      let socket ← TCP.Socket.Client.mk
      socket.connect address
      return some socket
    catch _ => connect? addresses

/-- The answer that comes over a connection. -/
def receive (socket : TCP.Socket.Client) : Async Received := do
  let mut bytes := ByteArray.empty
  let mut received := Received.part
  repeat
    let more ← socket.recv? 65536
    bytes := bytes ++ more.getD ByteArray.empty
    received := .ofBytes more.isNone bytes.toList
    if received ≠ .part then break
  return received

/-- Posts and waits for the answer. -/
def exchange (posting : Posting) : Async (Except HttpFailure HttpAnswer) := do
  let url := posting.url
  if url.scheme ≠ "http" then return .error (.unreached url)
  let socket? ← try connect? (← addressesOf url) catch _ => pure none
  match socket? with
  | none => return .error (.unreached url)
  | some socket =>
    try
      socket.send posting.message.toUTF8
      match ← receive socket with
      | .whole answer => return .ok answer
      | _ => return .error (.brokenOff url)
    catch _ => return .error (.brokenOff url)

/-- Posts and waits no longer than some milliseconds. -/
def exchangeWithin (limit : Nat) (posting : Posting) : IO (Except HttpFailure HttpAnswer) :=
  let late : Async (Except HttpFailure HttpAnswer) := do
    sleep (.ofNat limit)
    return .error .timeout
  (Async.race (exchange posting) late).block

/-- When the first request of a chain is posted. -/
abbrev Clock : Type := IO.Ref (Option Nat)

/-- The milliseconds that a chain has gone on. -/
def Clock.elapsed (clock : Clock) : IO Nat := do
  let present ← IO.monoMsNow
  match ← clock.get with
  | some start => return present - start
  | none =>
    clock.set (some present)
    return 0

/-- Posts a request. Where the chain's time is over first, the reply comes later than the chain. -/
def post (clock : Clock) (chainTimeout : Nat) (request : HttpRequest) : IO HttpReply := do
  match Posting.ofRequest request with
  | .error failure => return ⟨0, .error failure⟩
  | .ok posting =>
    let left := chainTimeout - (← clock.elapsed)
    let start ← IO.monoMsNow
    let answer ← exchangeWithin (min request.timeout (left + 1)) posting
    let delay := (← IO.monoMsNow) - start
    match answer with
    | .error .timeout =>
      return ⟨if request.timeout ≤ left then request.timeout else chainTimeout + 1, .error .timeout⟩
    | .error failure => return ⟨delay, .error failure⟩
    | .ok answer => return ⟨delay, answer.result⟩

/-- Makes several calls at the same time. -/
def together (calls : List (IO Reply)) : IO (List Reply) := do
  let tasks ← calls.mapM fun call => IO.asTask call .dedicated
  tasks.mapM fun task => IO.ofExcept task.get

/-- The world around a command. -/
def surroundings : IO (Surroundings IO) := do
  let clock ← IO.mkRef none
  return {
    sources := ← readSources
    readInput
    newChain := do return (ChainId.ofRandom (← randomBits 16), ← now)
    seed := ← randomBits 4
    post := post clock
    together }

end PromptRelay.Program

open PromptRelay in
/-- Carries out the command line. -/
def main (arguments : List String) : IO UInt32 := do
  let outcome ← performArguments arguments (← Program.surroundings)
  (← IO.getStdout).putStr outcome.output
  (← IO.getStderr).putStr outcome.errors
  return outcome.exitCode.toUInt32
