import SensorThresholds.Http.Message
import SensorThresholds.Program
import Std.Async.DNS
import Std.Async.TCP
import Std.Async.Timer

/-!
The program. A run is a function of what its peer answers and its output takes, so it is carried
out again and again with what has been learnt: whenever it comes to a request whose answer is not
known, its events up to there are shown and the answer is fetched.
-/

namespace SensorThresholds.Main

open Std.Async Std.Net

/-- The variables that have a meaning of their own. -/
def variableNames : List String :=
  ["REDFISH_SCHEME", "REDFISH_TIMEOUT_SECS", "REDFISH_VERIFY_TLS", "REDFISH_REPORT_BASE",
   "THRESHOLDS_LOG_LEVEL", "RUST_LOG", "FORCE_COLOR"]

/-- The names that a file of variables may refer to. -/
def namesIn (file : String) : List String :=
  (file.splitToList fun c => !(c.isAlphanum || c == '_' || c == '.')).filter (· ≠ "")

def environment (names : List String) : IO Environment := do
  let found ← names.filterMapM fun name => return (name, ·) <$> (← IO.getEnv name)
  return found.foldl (fun env (name, value) => env.setDefault name value) .empty

/-- The nearest file of variables, here or in a directory above. -/
def readFile : IO String := do
  let depth := ((← IO.currentDir).toString.toList.filter (· = '/')).length
  for level in List.range (depth + 1) do
    let name := String.join (List.replicate level "../") ++ ".env"
    try return ← IO.FS.readFile name catch _ => pure ()
  return ""

partial def receive (socket : TCP.Socket.Client) (received : ByteArray) : Async ByteArray := do
  match ← socket.recv? 65536 with
  | some bytes => receive socket (received ++ bytes)
  | none => return received

def exchange (address : SocketAddress) (message : ByteArray) : Async ByteArray := do
  let socket ← TCP.Socket.Client.mk
  socket.connect address
  socket.send message
  receive socket .empty

def socketAddress (port : Nat) : IPAddr → SocketAddress
  | .v4 addr => .v4 ⟨addr, port.toUInt16⟩
  | .v6 addr => .v6 ⟨addr, port.toUInt16⟩

/-- Tries the addresses of a host in turn. -/
def exchangeAny (port : Nat) (message : ByteArray) : List IPAddr → Async ByteArray
  | [] => throw (.userError "no address")
  | [address] => exchange (socketAddress port address) message
  | address :: rest => do
    try exchange (socketAddress port address) message catch _ => exchangeAny port message rest

/-- The page that a host answers a request with. One that does not answer in time, or not with a
message, has a page that breaks off. -/
def fetch (url : Url) (timeoutSeconds : Nat) (request : Request) : IO Page := do
  let silent : Page := ⟨request.target, 200, [], false⟩
  let host := url.host.toList.filter fun c => c ≠ '[' && c ≠ ']'
  let message := ByteArray.mk (Message.ofRequest url.authority request).toArray
  let answer : Async (Option ByteArray) := do
    let addresses ← DNS.getAddrInfo (.ofList host) (toString url.port)
    return some (← exchangeAny url.port message addresses.toList)
  let limit : Async (Option ByteArray) := do
    sleep (.ofNat (min timeoutSeconds 1000000 * 1000))
    return none
  try
    match ← (Async.race answer limit).block with
    | some bytes => return (Message.page? request.target bytes.toList).getD silent
    | none => return silent
  catch _ => return silent

/-- The events up to the first request that no known page answers, and that request. -/
def untilUnknown (pages : List Page) : List Event → List Event × Option Request
  | [] => ([], none)
  | .request r :: rest =>
    if pages.any (·.path == r.target) then
      let (shown, unknown) := untilUnknown pages rest
      (.request r :: shown, unknown)
    else ([], some r)
  | event :: rest =>
    let (shown, unknown) := untilUnknown pages rest
    (event :: shown, unknown)

/-- Shows events as long as the output takes them, and returns those that are left. -/
def showAll (style : LogStyle) : List Event → IO (List Event)
  | [] => return []
  | .write bytes :: rest => do
    let written ← try
        (← IO.getStdout).write (.mk bytes.toArray)
        (← IO.getStdout).flush
        pure true
      catch _ => pure false
    if written then showAll style rest else return .write bytes :: rest
  | .log entry :: rest => do
    if let some line := style.line? entry then IO.eprintln line
    showAll style rest
  | _ :: rest => showAll style rest

def bytesWritten (events : List Event) : Nat :=
  (events.flatMap fun
    | .write bytes => bytes
    | _ => []).length

/-- Carries a lookup on from the events that have been shown. -/
partial def carryOn (a : Arguments) (env : Environment) (style : LogStyle) (url : Url)
    (timeoutSeconds : Nat) (pages : List Page) (writer : Writer) (shown : Nat) : IO UInt32 := do
  let outcome := a.run env ⟨url.host, url.port, pages⟩ writer
  let (events, unknown) := untilUnknown pages outcome.trace
  let left ← showAll style (events.drop shown)
  let shown := events.length - left.length
  if left.isEmpty then
    match unknown with
    | some request =>
      let page ← fetch url timeoutSeconds request
      carryOn a env style url timeoutSeconds (pages ++ [page]) writer shown
    | none =>
      match outcome.result with
      | .ok () => return 0
      | .error fault =>
        if let some line := style.line? fault.entry then IO.eprintln line
        return 1
  else
    let taken := bytesWritten (events.take shown)
    carryOn a env style url timeoutSeconds pages { writer with bytesLeft := some taken } shown

/-- Where the peer is; an address that makes no sense is nowhere. -/
def peer (a : Arguments) (settings : Settings) : Url :=
  (Url.parse? s!"{settings.scheme}://{a.host}/").getD ⟨settings.scheme, "", 0, ""⟩

def lookup (a : Arguments) : IO UInt32 := do
  let file ← readFile
  let surroundings : Surroundings :=
    ⟨← environment (variableNames ++ namesIn file), file, ← (← IO.getStderr).isTty,
      ⟨"", 0, []⟩, ⟨none, none, .deviceFull⟩⟩
  let (env, style) := surroundings.prepare a
  for line in style.filter.complaints do IO.eprintln line
  let settings := (Settings.ofEnvironment env).toOption.getD ⟨"", 0, false, ""⟩
  carryOn a env style (peer a settings) settings.timeoutSeconds [] surroundings.writer 0

end SensorThresholds.Main

def main (arguments : List String) : IO UInt32 := do
  match SensorThresholds.Invocation.ofArguments arguments with
  | .lookup a => SensorThresholds.Main.lookup a
  | .refused fault =>
    for line in fault.lines do IO.eprintln line
    return 2
  | invocation =>
    try
      for line in invocation.lines do IO.println line
    catch _ => pure ()
    return 0
