import DutyRelay.Epoch
import DutyRelay.Journal

/-!
# Progress through the epochs

The relay remembers the last epoch it has dealt with, the head slot it last saw, and whether it has
dealt with any epoch yet. A look at the head tells whether a refresh is due. Epochs that were missed are
made up for by one refresh, not by one each.

## Contents
- `Progress`, `Progress.start`, `Transition`.
- `Progress.see`, `Progress.transition`: looking at the head.
- `Progress.commit`: an epoch has been dealt with.
-/

namespace DutyRelay

/-- How far the relay has come. -/
@[ext]
structure Progress where
  /-- The last epoch whose refresh was completed. -/
  lastProcessed : Option Epoch
  /-- The head slot seen last. -/
  headSlot : Slot
  /-- Whether no refresh has been completed yet. -/
  firstRun : Bool
deriving DecidableEq, Inhabited, Repr

/-- What a look at the head amounts to. -/
inductive Transition where
  /-- The head is in an epoch that has been dealt with. -/
  | settled (epoch : Epoch)
  /-- A refresh for the epoch is due. -/
  | due (epoch : Epoch) (firstRun : Bool)
deriving DecidableEq, Inhabited, Repr

namespace Transition

def isDue : Transition → Bool
  | settled _ => false
  | due _ _ => true

def epoch : Transition → Epoch
  | settled epoch => epoch
  | due epoch _ => epoch

end Transition

namespace Progress

/-- Nothing seen and nothing done. -/
def start : Progress := ⟨none, 0, true⟩

/-- The head has been seen at a slot. -/
def see (progress : Progress) (head : Slot) : Progress := { progress with headSlot := head }

/-- A refresh is due as long as none has been completed, and later once the epoch of the head is beyond
the last one dealt with. -/
def transition (progress : Progress) (length : EpochLength) (head : Slot) : Transition :=
  let epoch := length.epochOf head
  if progress.firstRun then .due epoch true
  else match progress.lastProcessed with
    | none => .due epoch false
    | some last => if last < epoch then .due epoch false else .settled epoch

/-- The journal of a look at the head: a line if the head has fallen behind the last epoch dealt with. -/
def seeLines (progress : Progress) (length : EpochLength) (head : Slot) : List Line :=
  let epoch := length.epochOf head
  match progress.transition length head, progress.lastProcessed with
  | .settled _, some last =>
    if epoch < last then
      [.debug s!"Head slot {head} is in epoch {epoch}, behind last processed epoch {last}"]
    else []
  | _, _ => []

/-- The refresh for an epoch has been completed. An epoch before the last one dealt with is not taken
down, so that there is no way back. -/
def commit (progress : Progress) (epoch : Epoch) : Progress where
  lastProcessed := match progress.lastProcessed with
    | none => some epoch
    | some last => some (max last epoch)
  headSlot := progress.headSlot
  firstRun := false

end Progress
end DutyRelay
