import DutyRelay.CommandLine
import DutyRelay.Service
import DutyRelay.Web.Message
import Std.Async.DNS
import Std.Async.Signal
import Std.Async.TCP
import Std.Async.Timer

/-!
# The program

Takes the command line, carries the dialogue of the service out against servers in the network,
writes the journal to standard error, and ticks until a signal asks it to stop. Only plain `http` is
spoken: a server behind `https` counts as one that cannot be reached.

## Contents
- `Worker`: the next ticket, the limits of requests, and the signals.
- `Worker.exchange`: one request and its response.
- `Worker.perform`: a dialogue carried out.
- `main`.
-/

namespace DutyRelay

open Std.Async

/-- What carries dialogues out. -/
structure Worker where
  nextTicket : IO.Ref Nat
  /-- How long a response may take. -/
  patience : Span
  /-- The longest answer to a request without a body. -/
  longest : Nat
  /-- The signals that stop the program, with tasks that end when they arrive. -/
  signals : List (String × AsyncTask Int)

namespace Worker

/-! ## Time -/

/-- The longest time, in milliseconds, that is waited for: some three hundred thousand years. -/
def longestRest : Nat := 10000000000000000

/-- Lets a span pass, as closely as the standard timer keeps it. -/
def rest (span : Span) : Async Unit :=
  let millis := min (Timer.standard.taken span).millis longestRest
  Std.Async.sleep (Std.Time.Millisecond.Offset.ofNat millis)

/-! ## The network -/

/-- The address of a socket. -/
def socketAddress (number : Nat) : Std.Net.IPAddr → Std.Net.SocketAddress
  | .v4 address => .v4 ⟨address, UInt16.ofNat number⟩
  | .v6 address => .v6 ⟨address, UInt16.ofNat number⟩

/-- Connects to the first of some addresses that can be reached. -/
def connect? : List Std.Net.SocketAddress → Async (Option TCP.Socket.Client)
  | [] => pure none
  | address :: others => do
    let client ← TCP.Socket.Client.mk
    let isReached ← try client.connect address; pure true catch _ => pure false
    if isReached then return some client else connect? others

/-- Receives until the connection is closed, or more bytes have come than anyone needs. -/
partial def receive (client : TCP.Socket.Client) (limit : Option Nat) (done : ByteArray) :
    Async ByteArray := do
  if limit.any (· < done.size) then return done
  match ← (try client.recv? 65536 catch _ => pure none) with
  | none => return done
  | some bytes => receive client limit (done ++ bytes)

/-- The bytes that come back to a request. A head of 64 KiB is not held against the body. -/
def converse (worker : Worker) (request : Web.Request) : Async (Option Web.Response) := do
  if request.url.scheme ≠ "http" then return none
  let number := request.url.number.getD 80
  let found ← DNS.getAddrInfo request.url.host.name (toString number)
  match ← connect? (found.toList.map (socketAddress number)) with
  | none => return none
  | some client =>
    client.send request.text.toUTF8
    let limit := if request.body.isSome then none else some (worker.longest + 65536)
    let bytes ← receive client limit ByteArray.empty
    return Web.Response.ofBytes? bytes.toList

/-- Sends a request. There is no response if anything goes wrong on the way or takes too long. -/
def exchange (worker : Worker) (request : Web.Request) : IO (Option Web.Response) := do
  let answered : Async (Option Web.Response) := try worker.converse request catch _ => pure none
  let late : Async (Option Web.Response) := do
    rest worker.patience
    return none
  Async.block (Async.race answered late)

/-! ## Dialogues -/

/-- Writes journal lines to standard error, details left out. -/
def report (lines : List Line) : IO Unit :=
  lines.forM fun line => if line.level = .debug then pure () else IO.eprintln line.text

/-- Answers a question. -/
def reply (worker : Worker) : (query : Web.Query) → IO (Web.Reply query)
  | .ticket => do
    let (ticket, desk) := Web.attend (fun _ () => (none, ())) .ticket ⟨← worker.nextTicket.get, ()⟩
    worker.nextTicket.set desk.nextTicket
    return ticket
  | .send request => worker.exchange request

/-- Carries a dialogue out. -/
def perform {α : Type} (worker : Worker) : Dialogue Web α → IO α
  | .done value => pure value
  | .asking query next => do worker.perform (next (← worker.reply query))
  | .noting lines later => do
    report lines
    worker.perform later
  | .pausing span later => do
    Async.block (rest span)
    worker.perform later

/-! ## Running -/

/-- The signal that has arrived, if one has. -/
def signal? (worker : Worker) : IO (Option String) := do
  let mut arrived := none
  for (name, task) in worker.signals do
    if ← IO.hasFinished task then arrived := some name
  return arrived

/-- Waits until the time of the monotonic clock, or for a signal. -/
def waitUntil (worker : Worker) (due : Nat) : IO Unit := do
  let left : Span := ⟨due - (← IO.monoNanosNow)⟩
  let timer ← Async.toIO (do rest left; return (0 : Int))
  discard (IO.waitAny (timer :: worker.signals.map Prod.snd) (by simp))

/-- Ticks at the poll interval until a signal arrives; the next tick is due at `due`. A tick that
has begun is finished. -/
partial def tickUntilStopped (worker : Worker) (service : Service) (due : Nat) (state : Relay.State) :
    IO Relay.State := do
  worker.waitUntil due
  match ← worker.signal? with
  | some signal =>
    report [Service.signalLine signal]
    return state
  | none =>
    let begun ← IO.monoNanosNow
    let (_, state) ← worker.perform (service.tick state)
    let due := Timer.standard.nextDue service.relay.pollInterval.nanos due begun
    worker.tickUntilStopped service due state

/-- Runs a service until a signal stops it. -/
def run (worker : Worker) (service : Service) : IO (Except Problem Unit) := do
  match ← worker.perform service.start with
  | .error problem => return .error problem
  | .ok _ =>
    let state ← worker.tickUntilStopped service (← IO.monoNanosNow) Relay.State.start
    report [Relay.stopLine state, Service.closingLine]
    return .ok ()

/-- A worker for a configuration, which looks out for signals from now on. -/
def ofConfig (config : Config) : IO Worker := do
  let interrupt ← (← Signal.Waiter.mk .sigint false).wait
  let terminate ← (← Signal.Waiter.mk .sigterm false).wait
  return {
    nextTicket := ← IO.mkRef (Web.Desk.start ()).nextTicket
    patience := config.requestTimeout
    longest := config.maxResponseBytes
    signals := [("SIGINT", interrupt), ("SIGTERM", terminate)] }

end Worker

/-- Runs the service of a configuration and gives the exit code. -/
def serve (config : Config) : IO UInt32 := do
  Worker.report (Service.openingLines config)
  match Service.ofConfig config with
  | .error problem =>
    IO.eprintln problem.text
    return 1
  | .ok service =>
    match ← (← Worker.ofConfig config).run service with
    | .error problem =>
      IO.eprintln problem.text
      return 1
    | .ok () => return 0

/-- The values of the variables that are set. -/
def environment : IO (List (String × String)) :=
  Setting.all.filterMapM fun setting => do
    return (← IO.getEnv setting.envName).map (setting.envName, ·)

end DutyRelay

open DutyRelay in
/-- The command line. -/
def main (args : List String) : IO UInt32 := do
  let env ← environment
  let now := (← Std.Time.Timestamp.now).toSecondsSinceUnixEpoch.val.toNat
  match CommandLine.parse args (fun name => env.lookup name) now with
  | .help =>
    IO.print CommandLine.helpText
    return 0
  | .version =>
    IO.println CommandLine.versionText
    return 0
  | .misuse =>
    IO.eprintln CommandLine.misuseText
    return 2
  | .start config => serve config
