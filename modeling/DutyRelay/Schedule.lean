import Std.Data.ExtTreeMap
import DutyRelay.Failure
import DutyRelay.Journal
import DutyRelay.PublicKey

/-!
# Proposer schedules

The beacon node reports duties as assignments: a validator, its key, and the slots it proposes. A
schedule is what the assignments of one epoch amount to: at most one proposer for each slot of the epoch,
and the key of each proposer. Where two assignments claim one slot, the later one has it.

## Contents
- `Assignment`, `Claim`: one claim for every slot that an assignment lists.
- `Schedule` and its queries: `proposer?`, `pubkey?`, `proposers`, and counts.
- `Schedule.build`: refused exactly when a claim lies outside the epoch.
- `Schedule.overwrites`: the claims that take a slot from another validator, for the journal.
-/

namespace DutyRelay

/-! ## Assignments and claims -/

/-- The duties of one validator in one epoch. -/
structure Assignment where
  validator : ValidatorIndex
  key : PublicKey
  /-- The slots it proposes; there may be none. -/
  slots : List Slot
deriving DecidableEq, Inhabited, Repr

/-- A slot together with the validator that proposes it. -/
structure Claim where
  slot : Slot
  validator : ValidatorIndex
deriving DecidableEq, Inhabited, Repr

namespace Assignment

def isProposer (assignment : Assignment) : Bool := !assignment.slots.isEmpty

/-- One claim for each listed slot. -/
def claims (assignment : Assignment) : List Claim :=
  assignment.slots.map fun slot => ⟨slot, assignment.validator⟩

end Assignment

/-- All claims of a list of assignments, in order. -/
def claimsOf (assignments : List Assignment) : List Claim := assignments.flatMap Assignment.claims

/-! ## Schedules -/

/-- One cell for every slot of an epoch. -/
abbrev SlotTable := Array (Option ValidatorIndex)

/-- The proposers of one epoch. -/
@[ext]
structure Schedule where
  epoch : Epoch
  length : EpochLength
  /-- The proposer at each offset from the first slot of the epoch. -/
  table : SlotTable
  table_size : table.size = length.slots
  /-- The keys of the validators that propose. -/
  keys : Std.ExtTreeMap ValidatorIndex PublicKey
  /-- The number of assignments that the schedule was built from. -/
  assignmentCount : Nat
deriving DecidableEq

namespace Schedule

/-- The first slot of the epoch. -/
def startSlot (schedule : Schedule) : Slot := schedule.length.startSlot schedule.epoch

/-- Whether a slot lies in the epoch. -/
def containsSlot (schedule : Schedule) (slot : Slot) : Bool :=
  schedule.length.epochOf slot = schedule.epoch

/-- The proposer of a slot; none if it is unknown or the slot lies in another epoch. -/
def proposer? (schedule : Schedule) (slot : Slot) : Option ValidatorIndex :=
  if schedule.containsSlot slot then (schedule.table[schedule.length.offsetOf slot]?).join else none

/-- The key of a validator that proposes. -/
def pubkey? (schedule : Schedule) (validator : ValidatorIndex) : Option PublicKey :=
  schedule.keys[validator]?

/-- The key of the proposer of a slot. -/
def proposerPubkey? (schedule : Schedule) (slot : Slot) : Option PublicKey :=
  (schedule.proposer? slot).bind schedule.pubkey?

/-- The assigned slots with their proposers, in slot order. -/
def proposers (schedule : Schedule) : List Claim :=
  schedule.table.toList.zipIdx.filterMap fun (proposer, offset) =>
    proposer.map fun validator => ⟨schedule.length.firstSlot schedule.epoch + offset, validator⟩

/-- The number of slots with a known proposer. -/
def assignedSlots (schedule : Schedule) : Nat := schedule.table.countP Option.isSome

/-- The number of validators with a key. -/
def proposerCount (schedule : Schedule) : Nat := schedule.keys.size

/-! ## Building -/

/-- The table after a claim has been entered. -/
def enter (length : EpochLength) (table : SlotTable) (claim : Claim) : SlotTable :=
  table.setIfInBounds (length.offsetOf claim.slot) (some claim.validator)

/-- A table without proposers. -/
def blank (length : EpochLength) : SlotTable := Array.replicate length.slots none

/-- The table after a list of claims has been entered, one after another. -/
def fill (length : EpochLength) (claims : List Claim) : SlotTable :=
  claims.foldl (enter length) (blank length)

@[simp] theorem size_enter (length : EpochLength) (table : SlotTable) (claim : Claim) :
    (enter length table claim).size = table.size := by
  simp [enter]

theorem size_foldl_enter (length : EpochLength) (claims : List Claim) (table : SlotTable) :
    (claims.foldl (enter length) table).size = table.size := by
  induction claims generalizing table with
  | nil => rfl
  | cons claim rest ih => simp [ih]

theorem size_fill (length : EpochLength) (claims : List Claim) :
    (fill length claims).size = length.slots := by
  simp [fill, size_foldl_enter, blank]

/-- The key of each validator with a slot; of several assignments the last one counts. -/
def keysOf (assignments : List Assignment) : Std.ExtTreeMap ValidatorIndex PublicKey :=
  assignments.foldl
    (fun keys assignment =>
      if assignment.isProposer then keys.insert assignment.validator assignment.key else keys)
    ∅

/-- The first claim whose slot lies in another epoch. -/
def stray? (length : EpochLength) (epoch : Epoch) (assignments : List Assignment) : Option Claim :=
  (claimsOf assignments).find? fun claim => length.epochOf claim.slot ≠ epoch

/-- The schedule of an epoch from the assignments for it. The order of assignments matters only where
two of them claim one slot; then the later one has it. A slot of another epoch is refused. -/
def build (length : EpochLength) (epoch : Epoch) (assignments : List Assignment) :
    Outcome Schedule :=
  match stray? length epoch assignments with
  | some claim => .error (.slotOutsideEpoch claim.slot epoch)
  | none => .ok {
      epoch
      length
      table := fill length (claimsOf assignments)
      table_size := size_fill length (claimsOf assignments)
      keys := keysOf assignments
      assignmentCount := assignments.length }

/-! ## Overwritten claims -/

/-- A slot that a later claim takes from another validator. -/
structure Overwrite where
  slot : Slot
  previous : ValidatorIndex
  latest : ValidatorIndex
deriving DecidableEq, Repr

/-- Enters one claim, and records whom it takes the slot from. -/
def enterRecording (length : EpochLength) (entered : SlotTable × Array Overwrite) (claim : Claim) :
    SlotTable × Array Overwrite :=
  let (table, found) := entered
  match (table[length.offsetOf claim.slot]?).join with
  | some previous =>
    let found :=
      if previous = claim.validator then found
      else found.push ⟨claim.slot, previous, claim.validator⟩
    (enter length table claim, found)
  | none => (enter length table claim, found)

/-- The claims that take a slot from another validator, up to the first claim outside the epoch. -/
def overwrites (length : EpochLength) (epoch : Epoch) (assignments : List Assignment) :
    List Overwrite :=
  let inside := (claimsOf assignments).takeWhile fun claim => length.epochOf claim.slot = epoch
  (inside.foldl (enterRecording length) (blank length, #[])).2.toList

/-- The journal lines of a build: one for each overwritten claim. -/
def buildLines (length : EpochLength) (epoch : Epoch) (assignments : List Assignment) : List Line :=
  (overwrites length epoch assignments).map fun ⟨slot, previous, latest⟩ => .warn
    s!"Duplicate proposer for slot {slot} in epoch {epoch}: {previous} overwritten by {latest}"

/-- The proposer of every assigned slot, as journal lines. -/
def listing (schedule : Schedule) : List Line :=
  .debug (s!"Epoch {schedule.epoch}: {schedule.proposerCount} proposers over " ++
      s!"{schedule.assignedSlots} slots") ::
    schedule.proposers.map fun ⟨slot, validator⟩ =>
      let key := ((schedule.pubkey? validator).map PublicKey.short).getD ""
      .debug s!"slot {slot} proposer {validator} key {key}"

end Schedule
end DutyRelay
