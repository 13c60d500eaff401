import EdgeCatalog.Daemon
import Std.Async.Select
import Std.Async.Signal
import Std.Async.TCP
import Std.Async.Timer
import Std.Time.DateTime.Timestamp

/-! The program: it takes its surroundings from the system, starts a catalog, and serves it until it
is interrupted. -/
namespace EdgeCatalog.Program

open Std.Async
open EdgeCatalog.Daemon (Server)
open EdgeCatalog.Startup (Running)

/-! ## Surroundings -/

/-- The variables that the program looks at. -/
def environment : IO (List (String × String)) :=
  ("RUST_LOG" :: CommandLine.Switch.all.filterMap (·.setting?)).filterMapM fun name => do
    return (← IO.getEnv name).map (name, ·)

def faultOf : IO.Error → FileFault
  | .noFileOrDirectory .. => .missing
  | .inappropriateType _ 21 _ => .directory
  | .inappropriateType .. => .notDirectory
  | .permissionDenied .. => .other "Permission denied (os error 13)"
  | e => .other (toString e)

def readFile (path : String) : IO Config.File := do
  match ← (IO.FS.readBinFile path).toBaseIO with
  | .ok bytes => return .content bytes
  | .error e => return .unreadable (faultOf e)

def clock : IO Instant := do
  let time ← Std.Time.Timestamp.now
  return (Instant.ofNanos? 0 time.toNanosecondsSinceUnixEpoch.toInt).getD .epoch

/-- Only the file that the options name is looked at. -/
def surroundings (arguments : List String) : IO Surroundings := do
  let environment ← environment
  let file ← match CommandLine.parse arguments environment with
    | .ok (.run { config := some path, .. }) => readFile path
    | _ => pure (.unreadable .missing)
  return { environment, file := fun _ => file, now := ← clock, timer := ← IO.monoNanosNow }

/-! ## Serving -/

def record (journal : Journal) (events : List Event) : IO Unit := do
  let now ← clock
  for line in journal.write now events do
    IO.println line

def socketAddress (a : CommandLine.Address) : Std.Net.SocketAddress :=
  match a.host with
  | .v4 octets => .v4 ⟨⟨octets⟩, a.port⟩
  | .v6 groups _ => .v6 ⟨⟨groups⟩, a.port⟩

/-- A server that listens. -/
structure Listener where
  server : Server
  socket : TCP.Socket.Server

/-- Listens on an address; a failure is logged, and the program goes on without the server. -/
def listen (journal : Journal) (server : Server) (address : CommandLine.Address) :
    IO (List Listener) := do
  try
    let socket ← TCP.Socket.Server.mk
    socket.bind (socketAddress address)
    socket.listen 128
    record journal [Daemon.listening server address]
    return [⟨server, socket⟩]
  catch e =>
    record journal [Daemon.unbound server address (toString e)]
    return []

/-- Reads up to the empty line that ends the head of a request. -/
partial def receiveHead (client : TCP.Socket.Client) (done : ByteArray) : Async ByteArray := do
  let text := (String.fromUTF8? done).getD ""
  if (text.splitOn "\r\n\r\n").length > 1 || done.size > 65536 then return done
  match ← client.recv? 4096 with
  | none => return done
  | some bytes => receiveHead client (done ++ bytes)

def answer (state : Running) (server : Server) (client : TCP.Socket.Client) : Async Unit := do
  try
    let head ← receiveHead client .empty
    let response := Daemon.answer state.catalog server ((String.fromUTF8? head).getD "")
    client.send response.message.toUTF8
    client.shutdown
  catch _ => return

/-- What the program waits for. -/
inductive Wake
  | interrupted
  | due
  | connected (server : Server) (client : TCP.Socket.Client)

/-- Milliseconds up to the next sweep, at most a minute. -/
def pause (state : Running) (now : Nat) : Nat :=
  min 60000 ((state.sweeper.nextTick - now) / 1000000 + 1)

partial def serve (journal : Journal) (signal : Signal.Waiter) (listeners : List Listener)
    (state : Running) : Async Unit := do
  let span := Std.Time.Millisecond.Offset.ofNat (pause state (← IO.monoNanosNow))
  let timer ← Selector.sleep span
  let sources : List (Selectable Wake) :=
    .case signal.selector (fun _ => pure .interrupted)
      :: .case timer (fun _ => pure .due)
      :: listeners.map fun l =>
        .case l.socket.acceptSelector fun client => pure (.connected l.server client)
  let wake ← Selectable.one sources.toArray
  let reading ← clock
  let (state, events) := Daemon.catchUp state (fun _ => reading) (← IO.monoNanosNow)
  record journal events
  match wake with
  | .interrupted => record journal (Daemon.closing state)
  | .due => serve journal signal listeners state
  | .connected server client =>
    background (answer state server client)
    serve journal signal listeners state

def run (arguments : List String) : IO UInt32 := do
  let report := Startup.run arguments (← surroundings arguments)
  record report.journal report.events
  IO.eprint report.errorText
  match report.ending with
  | .printed lines =>
    for line in lines do
      IO.println line
  | .running state =>
    let signal ← Signal.Waiter.mk .sigint false
    let health ← listen report.journal .health state.health
    let metrics ← listen report.journal .metrics state.metrics
    (serve report.journal signal (health ++ metrics) state).block
  | _ => pure ()
  return UInt32.ofNat report.exitCode

end EdgeCatalog.Program

def main (arguments : List String) : IO UInt32 :=
  EdgeCatalog.Program.run arguments
