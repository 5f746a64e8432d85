import DutyRelay.Schedule

/-!
# Comparing fresh duties with a schedule

Duties fetched again for an epoch may contradict the schedule that is already known for it. A fresh claim
conflicts if the schedule has given its slot to another validator whose key is known and not empty.

## Contents
- `Conflict`, `Schedule.conflicts`: every conflicting claim, in order.
- `Schedule.checkFresh`: refused exactly when there is one; `Schedule.conflictLines` for the journal.
-/

namespace DutyRelay

/-- A slot with one proposer in the schedule and another in the fresh duties. -/
structure Conflict where
  slot : Slot
  known : ValidatorIndex
  fresh : ValidatorIndex
deriving DecidableEq, Repr

namespace Schedule

/-- The conflict that a fresh claim raises, if it raises one. -/
def conflict? (schedule : Schedule) (claim : Claim) : Option Conflict :=
  match schedule.proposer? claim.slot with
  | none => none
  | some known =>
    if known ≠ claim.validator ∧ (schedule.pubkey? known).any (fun key => !key.isEmpty) then
      some ⟨claim.slot, known, claim.validator⟩
    else none

/-- The conflicts of fresh duties with the schedule, one for each conflicting claim. -/
def conflicts (schedule : Schedule) (fresh : List Assignment) : List Conflict :=
  (claimsOf fresh).filterMap schedule.conflict?

/-- Refuses fresh duties that conflict with the schedule. -/
def checkFresh (schedule : Schedule) (fresh : List Assignment) : Outcome Unit :=
  match schedule.conflicts fresh with
  | [] => .ok ()
  | found => .error (.conflict schedule.epoch found.length)

/-- The short form of a key that may be absent. -/
def shortKey (key : Option PublicKey) : String := (key.map PublicKey.short).getD ""

/-- One journal line for each conflict. -/
def conflictLines (schedule : Schedule) (fresh : List Assignment) : List Line :=
  (schedule.conflicts fresh).map fun conflict =>
    let knownKey := shortKey (schedule.pubkey? conflict.known)
    let freshKey := shortKey <|
      (fresh.find? fun assignment => assignment.validator = conflict.fresh).map Assignment.key
    .warn (s!"Proposer conflict at slot {conflict.slot} in epoch {schedule.epoch}: " ++
      s!"cached {conflict.known} ({knownKey}) vs fresh {conflict.fresh} ({freshKey})")

end Schedule
end DutyRelay
