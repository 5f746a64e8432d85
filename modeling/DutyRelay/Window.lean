import DutyRelay.Schedule

/-!
# The window of two epochs

The relay keeps the schedules of the epoch that the chain is in and of the one after it; whatever is
older or newer is unknown. At each transition the window moves on: the next schedule becomes the current
one and a new one becomes the next. A window is a value, so a copy handed to a reader is never seen half
moved.

## Contents
- `Window`, `Window.currentEpoch`, `Window.nextEpoch`.
- `Window.find?`, `Window.lookup?`, `Window.pubkey?`: questions by epoch.
- `Window.staged?`, `Window.advance`, `Window.promote`, `Window.announced`: moving on.
-/

namespace DutyRelay

/-- The schedules of the current and the next epoch. -/
@[ext]
structure Window where
  current : Option Schedule
  next : Option Schedule
deriving DecidableEq

namespace Window

/-- A window without schedules. -/
def empty : Window := ⟨none, none⟩

instance : Inhabited Window := ⟨empty⟩

def currentEpoch (window : Window) : Option Epoch := window.current.map Schedule.epoch

def nextEpoch (window : Window) : Option Epoch := window.next.map Schedule.epoch

/-! ## Questions -/

/-- The schedule of an epoch, looked for in current first. -/
def find? (window : Window) (epoch : Epoch) : Option Schedule :=
  [window.current, window.next].reduceOption.find? fun schedule => schedule.epoch = epoch

/-- The proposer of a slot, by the schedule of the given epoch. -/
def lookup? (window : Window) (epoch : Epoch) (slot : Slot) : Option ValidatorIndex :=
  (window.find? epoch).bind fun schedule => schedule.proposer? slot

/-- The key of a validator, by the schedule of the given epoch. -/
def pubkey? (window : Window) (epoch : Epoch) (validator : ValidatorIndex) : Option PublicKey :=
  (window.find? epoch).bind fun schedule => schedule.pubkey? validator

/-! ## Moving on -/

/-- The schedule that would become current for an epoch, looked for in next first. -/
def staged? (window : Window) (epoch : Epoch) : Option Schedule :=
  [window.next, window.current].reduceOption.find? fun schedule => schedule.epoch = epoch

/-- The schedule to become current for an epoch: the one in the window, else the fresh one, which has
to be there and to be of that epoch. -/
def currentFor (window : Window) (epoch : Epoch) (fresh : Option Schedule) : Outcome Schedule :=
  match window.staged? epoch, fresh with
  | some schedule, _ => .ok schedule
  | none, none => .error (.unavailable s!"schedule for epoch {epoch}")
  | none, some schedule =>
    if schedule.epoch = epoch then .ok schedule
    else .error (.epochMismatch epoch schedule.epoch)

/-- Moves the window on, in place, to a new next schedule. The schedule of the epoch before it becomes
current: the one in the window if there is one, else `fresh`. The first epoch has none before it. The window
is written only once nothing can fail any more. -/
def advance (next : Schedule) (fresh : Option Schedule) : ExceptT Failure (StateM Window) Unit := do
  let before ←
    match next.epoch with
    | 0 => throw (.epochMismatch 1 0)
    | before + 1 => pure before
  let current ← ExceptT.mk (pure ((← get).currentFor before fresh))
  set (Window.mk (some current) (some next))

/-- The window that a copy is moved on to, while the window itself stays as it is. -/
def promote (window : Window) (next : Schedule) (fresh : Option Schedule) : Outcome Window :=
  let (outcome, moved) := (advance next fresh).run.run window
  outcome.map fun _ => moved

/-- The schedule of the epoch to come, which has to be there when it is about to be published. -/
def announced (window : Window) (epoch : Epoch) : Outcome Schedule :=
  match window.next with
  | some schedule => .ok schedule
  | none => .error (.unavailable s!"schedule for epoch {epoch}")

/-- The journal line of a move from one window to another. -/
def rotationLine (window moved : Window) : Line :=
  let current := moved.currentEpoch.getD 0
  let next := moved.nextEpoch.getD 0
  .info s!"Rotating epoch: {epochText window.currentEpoch} -> {current} (next {next})"

/-- The journal of an attempted move: a line if it succeeds, nothing otherwise. -/
def promoteLines (window : Window) (next : Schedule) (fresh : Option Schedule) : List Line :=
  match window.promote next fresh with
  | .ok moved => [rotationLine window moved]
  | .error _ => []

end Window
end DutyRelay
