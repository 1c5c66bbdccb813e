import ReleaseTrigger.Run
import Std.Async.DNS
import Std.Async.TCP
import Std.Time.Format

/-! # The program

The program runs on the arguments and the environment of the process. A run is a function of the
replies of the endpoint, so the program runs on the replies that it has, makes the next connection if
that run asks for one, and runs again with one reply more.
-/

open ReleaseTrigger

def variableOf (name : String) : IO (Option Octets) := do
  return (← IO.getEnv name).map fun value => Utf8.encode value.toList

def readEnvironment : IO Environment := do
  return {
    token := ← variableOf "JENKINS_TOKEN"
    jobUrl := ← variableOf "JENKINS_JOB_URL"
    timeout := ← variableOf "JENKINS_TRIGGER_TIMEOUT"
    logFilter := ← variableOf "RUST_LOG"
    noColour := ← variableOf "NO_COLOR"
    forceColour := ← variableOf "CLICOLOR_FORCE" }

def addressesOf : Host → Std.Async.Async (List Std.Net.IPAddr)
  | .domain name => do
    return (← Std.Async.DNS.getAddrInfo (String.ofList name) "").toList
  | .ipv4 address =>
    return ((Std.Net.IPv4Addr.ofString (String.ofList (Ipv4.render address))).map .v4).toList
  | .ipv6 address =>
    return ((Std.Net.IPv6Addr.ofString (String.ofList (Ipv6.render address))).map .v6).toList

/-- A connection to one of several addresses, if one accepts it. -/
def connect? (port : UInt16) :
    List Std.Net.IPAddr → Std.Async.Async (Option Std.Async.TCP.Socket.Client)
  | [] => return none
  | address :: others => do
    let socket ← Std.Async.TCP.Socket.Client.mk
    let target : Std.Net.SocketAddress := match address with
      | .v4 addr => .v4 ⟨addr, port⟩
      | .v6 addr => .v6 ⟨addr, port⟩
    try
      socket.connect target
      return some socket
    catch _ => connect? port others

/-- What is received until the other side closes. -/
partial def receiveAll (socket : Std.Async.TCP.Socket.Client) (received : ByteArray) :
    Std.Async.Async ByteArray := do
  try
    match ← socket.recv? 65536 with
    | none => return received
    | some more => receiveAll socket (received ++ more)
  catch _ => return received

def replyTo (request : Http.Request) : Std.Async.Async Http.Reply := do
  let place := Http.Place.of request.url
  match ← connect? place.port.toUInt16 (← addressesOf place.host) with
  | none => return .refuses
  | some socket =>
    socket.send (ByteArray.mk (Utf8.encode request.render).toArray)
    return .sends (Utf8.decodeLossy (← receiveAll socket .empty).toList)

/-- Waits for a task until a deadline, which lies so many milliseconds ahead of the start. -/
partial def waitFor {α : Type} (task : Task α) (start : Nat) (limit : Option Nat) :
    IO (Option α) := do
  if ← IO.hasFinished task then return some task.get
  let now ← IO.monoMsNow
  if (limit.map fun bound => decide (start + bound ≤ now)).getD false then return none
  IO.sleep 5
  waitFor task start limit

partial def waitForEver : IO UInt32 := do
  IO.sleep 1000
  waitForEver

/-- The end of a run, given the replies so far. Without a limit it comes to no silent reply, since it
waits for one. -/
partial def finish (runWith : List Http.Reply → Finished) (start : Nat) (limit : Option Nat)
    (replies : List Http.Reply) : IO Finished := do
  match ((runWith (replies ++ [.sends []])).requests.drop replies.length).head? with
  | none => return runWith replies
  | some request =>
    let task ← (replyTo request).block.asTask
    let reply : Http.Reply := match ← waitFor task start limit with
      | none => .silent
      | some (.error _) => .refuses
      | some (.ok reply) => reply
    finish runWith start limit (replies ++ [reply])

/-- The time limit of arguments in milliseconds. -/
def limitOf (environment : Environment) (arguments : List Octets) : Option Nat :=
  match CommandLine.parse environment arguments with
  | .ok accepted => accepted.timeout.map (· * 1000)
  | .error _ => none

/-- Runs the program on the arguments and the environment of the process. -/
def main (arguments : List String) : IO UInt32 := do
  let environment ← readEnvironment
  let octets := arguments.map fun argument => Utf8.encode argument.toList
  let time := Text.of (Std.Time.DateTime.ofTimestamp (← Std.Time.Timestamp.now) .UTC).toISO8601String
  let runWith (replies : List Http.Reply) : Finished :=
    run environment octets ⟨fun _ => true, replies⟩ time
  let final ← finish runWith (← IO.monoMsNow) (limitOf environment octets) []
  (← IO.getStdout).putStr (String.ofList final.output)
  (← IO.getStderr).putStr (String.ofList final.errors)
  match final.exitCode with
  | some code => return code.toUInt32
  | none => waitForEver
