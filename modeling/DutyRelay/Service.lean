import DutyRelay.Beacon
import DutyRelay.Execution
import DutyRelay.Relay

/-!
# The relay between two web servers

A service is a relay together with the two nodes it stands between. What keeps it from starting or ends it
is a `Problem`, shown with what was being done and why it failed.

## Contents
- `Problem`, `Problem.text`.
- `Service`, `Service.ofConfig`, `Service.answer`.
- `Service.start`, `Service.tick`, `Service.run`.
- `Service.openingLines`, `Service.signalLine`, `Service.closingLine`: the journal around a run.
-/

namespace DutyRelay

/-- Something that ends the service: what was being done, and the reason. -/
structure Problem where
  doing : String
  reason : String
deriving DecidableEq, Inhabited, Repr

namespace Problem

/-- The reason with every line set in by four blanks. -/
def indented (reason : String) : String :=
  "    " ++ String.ofList (reason.toList.flatMap fun c =>
    if c = '\n' then '\n' :: List.replicate 4 ' ' else [c])

/-- The form in which a problem is shown. -/
def text (problem : Problem) : String :=
  s!"Error: {problem.doing}\n\nCaused by:\n{indented problem.reason}"

end Problem

/-- A relay between two nodes. -/
structure Service where
  relay : Relay
  beacon : Beacon
  execution : Execution
  /-- How patient the relay is with each question. -/
  policy : RetryPolicy

namespace Service

/-- The service of a configuration. -/
def ofConfig (config : Config) : Except Problem Service := do
  match config.check with
  | .error fault => throw ⟨"invalid configuration", fault.message⟩
  | .ok () => pure ()
  let beacon ← (Beacon.ofEndpoint config.beaconEndpoint config.slotsPerEpoch
    config.maxResponseBytes).mapError fun failure =>
      ⟨"failed to create beacon client", failure.message⟩
  let relay ← (Relay.ofConfig config).mapError fun failure =>
    ⟨"invalid configuration", failure.message⟩
  return ⟨relay, beacon, ⟨config.executionEndpoint⟩, config.retryPolicy⟩

/-- Every question goes to the node that it concerns, as often as the policy allows. -/
def answer (service : Service) : Nodes.Answering Web :=
  Nodes.retrying service.policy fun
    | .head => service.beacon.head
    | .upcoming => service.beacon.upcoming
    | .duties epoch => service.beacon.assignments epoch
    | .insert payload => service.execution.insert payload

/-- What ends a service that had begun. -/
def stopped (failure : Failure) : Problem := ⟨"sync loop failed", failure.message⟩

/-- The first look at the head. -/
def start (service : Service) : Dialogue Web (Except Problem Slot) :=
  (·.mapError stopped) <$> (service.relay.probe.via service.answer)

/-- One tick. -/
def tick (service : Service) (state : Relay.State) :
    Dialogue Web (Outcome TickResult × Relay.State) :=
  (service.relay.tick state).via service.answer

/-- The whole run of a service that is stopped at a given time. -/
def run (service : Service) (timer : Timer) (stop : Nat) : Dialogue Web (Except Problem Unit) :=
  (·.1.mapError stopped) <$> service.relay.run timer service.answer stop Relay.State.start

/-! ## The journal around a run -/

/-- The first lines: what was configured, unless the configuration does not pass its check. -/
def openingLines (config : Config) : List Line :=
  match config.check with
  | .error _ => []
  | .ok () => [.info
      (s!"Starting epoch-sync: beacon {config.beaconEndpoint}, execution {config.executionEndpoint}, " ++
        s!"{config.slotsPerEpoch} slots per epoch, genesis {config.genesisTime}")]

/-- A signal asks the service to stop. -/
def signalLine (signal : String) : Line := .info s!"Received {signal}, shutting down"

/-- The last line. -/
def closingLine : Line := .info "epoch-sync stopped"

end Service
end DutyRelay
