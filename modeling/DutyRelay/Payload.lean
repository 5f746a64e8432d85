import DutyRelay.Schedule

/-!
# The payload for the execution node

The execution node is told, for an epoch, the keys of its proposers in slot order and the Unix time at
which it starts. For the first epoch of the chain the list may begin with the bare mark `0x`, which shifts
the rest by one; it does so when there were more assignments than slots.

## Contents
- `Payload`, `Calendar`, `Calendar.startTime`.
- `Calendar.payload`: the payload of a schedule; `Schedule.payloadLines` for the journal.
-/

namespace DutyRelay

/-- The consensus information of one epoch, as it is sent to the execution node. -/
structure Payload where
  epoch : Epoch
  /-- The written form of one key for every assigned slot, in slot order. -/
  keys : List String
  /-- The Unix time at which the epoch starts. -/
  start : Nat
deriving DecidableEq, Inhabited, Repr

/-- How slots relate to the clock. -/
structure Calendar where
  /-- Unix time of the first slot. -/
  genesisTime : Nat
  slotDuration : Span
deriving DecidableEq, Inhabited, Repr

/-- The Unix time at which an epoch starts, counted in whole seconds per slot. Every step stops at the
largest word. -/
def Calendar.startTime (calendar : Calendar) (epoch : Epoch) (slotsPerEpoch : Nat) : Nat :=
  Word.satAdd calendar.genesisTime
    (Word.satMul epoch (Word.satMul calendar.slotDuration.seconds slotsPerEpoch))

/-! ## The list of keys -/

/-- The bare mark that may open the list of the first epoch. -/
def sentinel : String := "0x"

/-- What becomes of an assigned slot in the list of keys. -/
inductive KeyEntry where
  /-- The proposer's key is listed. -/
  | listed (key : PublicKey)
  /-- No key is known for the proposer. -/
  | unknown (claim : Claim)
  /-- The list is full: this slot and all after it are left out. -/
  | dropped (claim : Claim)

/-- The key in its written form, if one is listed. -/
def KeyEntry.text? : KeyEntry → Option String
  | listed key => some key.text
  | unknown _ => none
  | dropped _ => none

/-- The journal line about a slot that is missing from the list. -/
def KeyEntry.line? (epoch : Epoch) : KeyEntry → Option Line
  | listed _ => none
  | unknown ⟨slot, validator⟩ =>
    some (.warn s!"No public key for proposer {validator} of slot {slot} in epoch {epoch}")
  | dropped ⟨slot, validator⟩ =>
    some (.warn s!"Dropping proposer {validator} for slot {slot} in epoch {epoch}: payload full")

namespace Schedule

/-- Whether the list of keys opens with the sentinel. -/
def needsSentinel (schedule : Schedule) : Bool :=
  schedule.epoch = 0 && schedule.length.slots < schedule.assignmentCount

/-- The entries for a list of assigned slots, with room for so many keys. -/
def keyEntriesFrom (schedule : Schedule) (room : Nat) : List Claim → List KeyEntry
  | [] => []
  | claim :: rest =>
    match room, schedule.pubkey? claim.validator with
    | 0, _ => [.dropped claim]
    | room + 1, some key => .listed key :: schedule.keyEntriesFrom room rest
    | room + 1, none => .unknown claim :: schedule.keyEntriesFrom (room + 1) rest

/-- The entries for all assigned slots. A list has at most one key more than the epoch has slots, the
sentinel included. -/
def keyEntries (schedule : Schedule) : List KeyEntry :=
  let room := if schedule.needsSentinel then schedule.length.slots else schedule.length.slots + 1
  schedule.keyEntriesFrom room schedule.proposers

/-- The keys of the proposers in slot order, after the sentinel where it is needed. -/
def keyTexts (schedule : Schedule) : List String :=
  (if schedule.needsSentinel then [sentinel] else []) ++
    schedule.keyEntries.filterMap KeyEntry.text?

/-- The journal of building the payload: a line for each slot without an entry. -/
def payloadLines (schedule : Schedule) : List Line :=
  schedule.keyEntries.filterMap (KeyEntry.line? schedule.epoch)

end Schedule

/-- The payload of a schedule. -/
def Calendar.payload (calendar : Calendar) (schedule : Schedule) : Payload where
  epoch := schedule.epoch
  keys := schedule.keyTexts
  start := calendar.startTime schedule.epoch schedule.length.slots

end DutyRelay
