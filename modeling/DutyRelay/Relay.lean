import DutyRelay.Compatibility
import DutyRelay.Config
import DutyRelay.Nodes
import DutyRelay.Progress
import DutyRelay.Window

/-!
# The relay

A tick looks at the head of the chain. When the head has entered an epoch that has not been dealt
with, one refresh follows:

1. fetch the duties of the next epoch and build its schedule;
2. fetch the duties of the current epoch, unless they are known and need no second look;
3. compare them with the schedule that is known for the current epoch;
4. hand the next epoch to the execution node, at the first refresh after the current one;
5. move the window on, record the progress, and tell the readers.

Step 5 happens only if all before it went well. A refresh that fails leaves everything but the head
slot as it was, and the next tick starts it again.

## Contents
- `Broadcast`, `Receiver`: the window as readers outside see it.
- `Relay`: the settings; `Relay.State`: what changes.
- `Relay.refresh`, `Relay.tick`.
- `Relay.probe`, `Relay.every`, `Relay.run`: ticks at fixed intervals until the relay is stopped.
-/

namespace DutyRelay

/-! ## Telling readers -/

/-- A value for readers elsewhere, with the number of times it was replaced. -/
structure Broadcast (α : Type) where
  value : α
  version : Nat

/-- A reader of a broadcast, with the version it looked at last. -/
structure Receiver where
  seen : Nat

namespace Broadcast

variable {α : Type}

/-- Replaces the value. -/
def send (broadcast : Broadcast α) (value : α) : Broadcast α := ⟨value, broadcast.version + 1⟩

/-- A reader that has seen the value as it is now. -/
def subscribe (broadcast : Broadcast α) : Receiver := ⟨broadcast.version⟩

/-- Whether the value was replaced since the reader looked. -/
def hasChanged (broadcast : Broadcast α) (receiver : Receiver) : Bool :=
  receiver.seen ≠ broadcast.version

end Broadcast

/-! ## The relay and its state -/

/-- The settings of a relay. -/
structure Relay where
  length : EpochLength
  calendar : Calendar
  pollInterval : Span
  pollInterval_pos : 0 < pollInterval.nanos
  revalidation : Revalidation

/-- What changes from tick to tick. -/
structure Relay.State where
  progress : Progress
  window : Window
  /-- The window as readers see it. -/
  broadcast : Broadcast Window

/-- What a tick came to. -/
inductive TickResult where
  /-- The head is in an epoch that has been dealt with. -/
  | idle (epoch : Epoch)
  /-- A refresh for the epoch was completed; rejected if any of its payloads was. -/
  | committed (epoch : Epoch) (acknowledgement : Acknowledgement)
deriving DecidableEq, Repr

namespace Relay

/-- A relay with a configuration that passes its check. -/
def ofConfig (config : Config) : Outcome Relay :=
  match h : config.check with
  | .error fault => .error (.config fault)
  | .ok () => .ok {
      length := ⟨config.slotsPerEpoch, Config.slots_pos_of_check h⟩
      calendar := ⟨config.genesisTime, config.slotDuration⟩
      pollInterval := config.pollInterval
      pollInterval_pos := Config.pollInterval_pos_of_check h
      revalidation := config.revalidation }

/-- Nothing seen, nothing cached, nothing told. -/
def State.start : State := ⟨Progress.start, Window.empty, ⟨Window.empty, 0⟩⟩

/-- A refresh for the epoch has been completed with this window. -/
def State.commit (state : State) (epoch : Epoch) (window : Window) : State :=
  ⟨state.progress.commit epoch, window, state.broadcast.send window⟩

/-! ## One refresh -/

/-- Work that may fail, with what it asked and reported up to then. -/
abbrev Attempt (α : Type) := ExceptT Failure (Dialogue Nodes) α

/-- Writes journal lines. -/
def Attempt.note (lines : List Line) : Attempt Unit := ExceptT.lift (Dialogue.note lines)

/-- Builds a schedule and reports overwritten claims. -/
def buildSchedule (relay : Relay) (epoch : Epoch) (assignments : List Assignment) :
    Attempt Schedule := do
  Attempt.note (Schedule.buildLines relay.length epoch assignments)
  ExceptT.mk (pure (Schedule.build relay.length epoch assignments))

/-- Fetches the next epoch, which has to be the one after `epoch`, and builds its schedule.

Epochs have no upper end here, so there always is one after. As words they have an end, and the sum leaves
the words in a single case: epochs of one slot, with the head in the last slot that a word can name. What
64-bit arithmetic does there is left out. -/
def fetchNext (relay : Relay) (epoch : Epoch) : Attempt Schedule := do
  let (next, assignments) ← ExceptT.mk Nodes.upcoming
  if next ≠ epoch + 1 then throw (.headMoved (epoch + 1) next)
  relay.buildSchedule next assignments

/-- Whether the duties of an epoch are fetched although it is about to become current: at the first
refresh, when no schedule of it is known, or always if the settings say so. -/
def revalidates (relay : Relay) (firstRun : Bool) (known : Option Schedule) : Bool :=
  firstRun || known.isNone || relay.revalidation = .always

/-- Fetches the current epoch, builds its schedule, and compares the duties with the known schedule.
-/
def fetchCurrent (relay : Relay) (epoch : Epoch) (known : Option Schedule) : Attempt Schedule := do
  let assignments ← ExceptT.mk (Nodes.duties epoch)
  let schedule ← relay.buildSchedule epoch assignments
  if let some cached := known then
    Attempt.note (cached.conflictLines assignments)
    ExceptT.mk (pure (cached.checkFresh assignments))
  return schedule

/-- Hands a schedule to the execution node. -/
def publish (relay : Relay) (schedule : Schedule) : Attempt Acknowledgement :=
  ExceptT.mk (relay.calendar.publish schedule)

/-- Publishes the epochs that the execution node has not been told yet: the next one, and at the first
refresh the current one of the window before it. -/
def publishWindow (relay : Relay) (firstRun : Bool) (window : Window) (next : Schedule) :
    Attempt Acknowledgement := do
  let earlier ← match firstRun, window.current with
    | true, some current => relay.publish current
    | _, _ => pure .accepted
  return earlier.both (← relay.publish next)

/-- One refresh for an epoch, from a window to the window after it. -/
def refresh (relay : Relay) (window : Window) (epoch : Epoch) (firstRun : Bool) :
    Attempt (Window × Acknowledgement) := do
  let next ← relay.fetchNext epoch
  let known := window.staged? epoch
  let fresh ←
    if relay.revalidates firstRun known then some <$> relay.fetchCurrent epoch known
    else pure none
  Attempt.note (window.promoteLines next fresh)
  let moved ← ExceptT.mk (pure (window.promote next fresh))
  let announced ← ExceptT.mk (pure (moved.announced next.epoch))
  let acknowledgement ← relay.publishWindow firstRun moved announced
  return (moved, acknowledgement)

/-! ## One tick -/

/-- The journal line about a refresh that failed: an error if the data or the relay is at fault,
else a warning. -/
def abortLine (epoch : Epoch) (head : Slot) (failure : Failure) : Line :=
  let text := s!"Aborted refresh for epoch {epoch} at head slot {head} " ++
    s!"({failure.kind.name}): {failure.message}"
  match failure.kind with
  | .transient => .warn text
  | .inconsistent => .warn text
  | .malformed => .error text
  | .irrecoverable => .error text

/-- What is left to do once the head is known: a refresh if one is due. -/
def tickAt (relay : Relay) (state : State) (head : Slot) :
    Dialogue Nodes (Outcome TickResult × State) := do
  let seen := { state with progress := state.progress.see head }
  Dialogue.note (state.progress.seeLines relay.length head)
  match state.progress.transition relay.length head with
  | .settled epoch =>
    Dialogue.note [.debug s!"Head slot {head} still in processed epoch {epoch}"]
    return (.ok (.idle epoch), seen)
  | .due epoch firstRun =>
    let last := epochText state.progress.lastProcessed
    Dialogue.note [.info s!"Entered epoch {epoch} at head slot {head} (last processed {last})"]
    match ← (relay.refresh state.window epoch firstRun).run with
    | .error failure =>
      Dialogue.note [abortLine epoch head failure]
      return (.error failure, seen)
    | .ok (window, acknowledgement) =>
      Dialogue.note ((window.next.map Schedule.listing).getD [])
      return (.ok (.committed epoch acknowledgement), seen.commit epoch window)

/-- Looks at the head, and refreshes if the head has entered a new epoch. -/
def tick (relay : Relay) (state : State) : Dialogue Nodes (Outcome TickResult × State) := do
  match ← Nodes.head with
  | .error failure =>
    Dialogue.note [.warn s!"Failed to get canonical head, skipping tick: {failure.message}"]
    return (.error failure, state)
  | .ok head => relay.tickAt state head

/-! ## Running -/

/-- A first look at the head, without which the relay does not start. -/
def probe (relay : Relay) : Dialogue Nodes (Outcome Slot) := do
  match ← Nodes.head with
  | .error failure => return .error (.startup ("cannot read chain head: " ++ failure.message))
  | .ok head =>
    Dialogue.note [.info
      s!"Starting epoch sync at head slot {head} (poll every {relay.pollInterval.text})"]
    return .ok head

/-- The last line of a run. -/
def stopLine (state : State) : Line :=
  let last := epochText state.progress.lastProcessed
  .info s!"Stopping epoch sync (last processed epoch {last})"

variable {J : Interface} {σ : Type}

/-- Steps that are due one `period` of nanoseconds apart, until time `stop`: it is `now`, and the
next step is due at `due`. A step that its predecessor delays beyond that follows at once, and
`Timer.nextDue` says when the one behind it is due. A step that has begun is finished; when a step
and the stop fall together, the stop comes first. Times count from when the run began. -/
def every (timer : Timer) (period : Nat) (period_pos : 0 < period) (stop : Nat)
    (step : σ → Dialogue J σ) (due now : Nat) (state : σ) : Dialogue J σ :=
  let begun := max now (timer.notice due)
  if begun < stop then do
    Dialogue.pause ⟨begun - now⟩
    let (state, spent) ← (step state).timed timer
    every timer period period_pos stop step (timer.nextDue period due begun) (begun + spent.nanos) state
  else do
    Dialogue.pause ⟨stop - now⟩
    return state
termination_by stop - due
decreasing_by
  have hnext : due < timer.nextDue period due (max now (timer.notice due)) :=
    timer.lt_nextDue period_pos
  have hnotice := timer.le_notice due
  omega

/-- Probes the head, then ticks at the poll interval until the relay is stopped, which it notices
between ticks only. What a tick came to is left to the journal. Fails only if the probe does. -/
def run (relay : Relay) (timer : Timer) (answer : Nodes.Answering J) (stop : Nat) (state : State) :
    Dialogue J (Outcome Unit × State) := do
  match ← (relay.probe.via answer).timed timer with
  | (.error failure, _) => return (.error failure, state)
  | (.ok _, spent) =>
    let state ← every timer relay.pollInterval.nanos relay.pollInterval_pos stop
      (fun state => Prod.snd <$> (relay.tick state).via answer) spent.nanos spent.nanos state
    Dialogue.note [stopLine state]
    return (.ok (), state)

end Relay
end DutyRelay
