import InfluxKeeper.Api.Http
import InfluxKeeper.Command.Run
import Std.Async.DNS
import Std.Async.TCP
import Std.Async.Timer

/-!
# The program

Runs a command line on the real environment, files, terminal and network. A run is repeated with every
answer and every typed line that it turned out to need, until it needs no more.
-/

namespace InfluxKeeper

open Std.Async Std.Net Command

/-- What a path leads to on this machine. -/
def fileState (path : String) : IO Manifest.FileState := do
  if path.contains '\x00' then return .noPath
  try
    return .octets (← IO.FS.readBinFile path).toList
  catch e =>
    match e with
    | .inappropriateType .. => return .unreadable .directory
    | .invalidArgument .. => return .unreadable .longName
    | _ => return .unreadable .absent

/-- The time on this machine. -/
def timeNow : IO Timestamp := do
  let nanoseconds := (← Std.Time.Timestamp.now).toNanosecondsSinceUnixEpoch.val
  let microseconds := nanoseconds / 1000
  return .ofSeconds (microseconds / 1000000) (microseconds % 1000000).toNat

/-- The settings in the environment of this machine. -/
def environmentNow : IO Environment := do
  let names := ["INFLUXDB_ENDPOINT", "INFLUXDB_TOKEN", "INFLUXDB_TIMEOUT", "MAX_CONCURRENT_RECONCILES",
    "MAX_RECONCILE_PASSES", "LOG_LEVEL"]
  let found ← names.mapM fun name => do return (← IO.getEnv name).map fun value => (name, value)
  return found.filterMap id

/-- The network address of a service on a host. -/
def socketAddress (host : IPAddr) (service : UInt16) : SocketAddress :=
  match host with
  | .v4 addr => .v4 ⟨addr, service⟩
  | .v6 addr => .v6 ⟨addr, service⟩

/-- Receives until the other side closes the connection. -/
partial def receiveAll (socket : TCP.Socket.Client) (received : ByteArray) : Async ByteArray := do
  match ← socket.recv? 65536 with
  | some more => receiveAll socket (received ++ more)
  | none => return received

/-- Connects to the first address that accepts a connection. -/
def connectFirst (service : UInt16) : List IPAddr → Async TCP.Socket.Client
  | [] => throw (.userError "Cannot connect")
  | [host] => do
    let socket ← TCP.Socket.Client.mk
    socket.connect (socketAddress host service)
    return socket
  | host :: rest => do
    try
      let socket ← TCP.Socket.Client.mk
      socket.connect (socketAddress host service)
      return socket
    catch _ => connectFirst service rest

/-- Sends a request to a place and reads the answer. -/
def exchangeAt (request : Api.Request) (place : Api.Place) : Async Api.Answer := do
  let addresses ← DNS.getAddrInfo place.host (toString place.service)
  let socket ← connectFirst place.service.toUInt16 addresses.toList
  socket.send (request.octets place)
  return .ofOctets (← receiveAll socket .empty).toList

/-- The answer of a task that gets the time of a request to finish. -/
partial def waitFor (task : AsyncTask Api.Answer) (deadline : Nat) : IO Api.Answer := do
  if ← IO.hasFinished task then IO.ofExcept task.get
  else if deadline ≤ (← IO.monoMsNow) then return .timedOut
  else
    IO.sleep 2
    waitFor task deadline

/-- Sends a request and waits for its answer, as long as it may take. No time or less is no limit. -/
def exchange (request : Api.Request) : IO Api.Answer := do
  match Api.Place.ofUrl? request.url with
  | none => return .unreachable request.url
  | some place =>
    try
      let task ← (exchangeAt request place).toIO
      if request.timeout ≤ 0 then IO.ofExcept (← IO.wait task)
      else waitFor task ((← IO.monoMsNow) + 1000 * request.timeout.toNat)
    catch e => return .unreachable (toString e)

/-- What a run found out about its surroundings so far. -/
structure Known where
  exchanges : Array Api.Exchange
  lines : Array String
  linesEnded : Bool
  shown : Nat

/-- Shows pieces of a conversation. Typed lines are on the terminal already. -/
def showTalk (talk : List Utterance) : IO Unit := do
  for u in talk do
    match u with
    | .said text => IO.print text
    | .warned text => IO.eprint text
    | .typed _ => pure ()
  (← IO.getStdout).flush

/-- Repeats a run until nothing is missing, and gives its exit code. -/
partial def runWith (words : List String) (environment : Environment)
    (files : List (String × Manifest.FileState)) (start : Timestamp) (known : Known) : IO UInt32 := do
  let latest := (known.exchanges.back?.map (·.time)).getD start
  let script (n : Nat) : Api.Exchange := known.exchanges.getD n ⟨latest, .cancelled⟩
  let file (path : String) : Manifest.FileState := (files.lookup path).getD (.unreadable .absent)
  let report := run words ⟨environment, file, known.lines.toList, ⟨start, [], script⟩⟩
  if known.lines.size < report.questions && !known.linesEnded then
    -- the last piece tells of the end of the lines, which is not known yet
    showTalk (report.talk.dropLast.drop known.shown)
    let line ← (← IO.getStdin).getLine
    let known := { known with shown := report.talk.length - 1 }
    if line.isEmpty then runWith words environment files start { known with linesEnded := true }
    else
      let typed := (line.dropEndWhile fun c => c == '\n' || c == '\r').toString
      runWith words environment files start
        { known with lines := known.lines.push typed, shown := known.shown + 1 }
  else
    match report.wire.sent[known.exchanges.size]? with
    | some request =>
      let time ← timeNow
      let answer ← exchange request
      runWith words environment files start
        { known with exchanges := known.exchanges.push ⟨time, answer⟩ }
    | none =>
      showTalk (report.talk.drop known.shown)
      match report.breakdown with
      | some b => IO.eprintln b.message
      | none => pure ()
      return report.code.toUInt32

end InfluxKeeper

/-- Runs the program. -/
def main (args : List String) : IO UInt32 := do
  let files ← args.mapM fun word => return (word, ← InfluxKeeper.fileState word)
  InfluxKeeper.runWith args (← InfluxKeeper.environmentNow) files (← InfluxKeeper.timeNow)
    ⟨#[], #[], false, 0⟩
