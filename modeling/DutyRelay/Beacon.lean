import DutyRelay.Nodes
import DutyRelay.Web

/-!
# The beacon node

The beacon node is asked for the header of the head and for the proposer duties of an epoch. Duties come
one for each slot and are gathered into one assignment for each validator. An answer that is too long is
given up as early as it shows.

## Contents
- `Duty`, `Duty.ofDocument?`, `headSlot?`: what the answers hold.
- `assignmentsOfDuties`: duties gathered by validator.
- `Beacon`, `Beacon.ofEndpoint`, `Beacon.fetch`: one request.
- `Beacon.head`, `Beacon.duties`, `Beacon.assignments`, `Beacon.upcoming`.
-/

namespace DutyRelay

open Json (Document)

/-! ## What the answers hold -/

/-- One slot and the validator that proposes it, as the beacon node reports it. -/
structure Duty where
  /-- The key as it is written. -/
  pubkey : String
  validator : ValidatorIndex
  slot : Slot
deriving DecidableEq, Inhabited, Repr

/-- Reads a duty. -/
def Duty.ofDocument? (document : Document) : Option Duty :=
  match document.record? ["pubkey", "validator_index", "slot"] with
  | some [some pubkey, some validator, some slot] => do
    return ⟨← pubkey.text?, ← validator.word?, ← slot.word?⟩
  | _ => none

/-- Reads the list of duties of an epoch. -/
def dutyList? (document : Document) : Option (List Duty) := do
  (← document.field? "data").list? Duty.ofDocument?

/-- Reads the slot in the header of the head. -/
def headSlot? (document : Document) : Option Slot := do
  let data ← document.field? "data"
  let header ← data.field? "header"
  let message ← header.field? "message"
  (← message.field? "slot").word?

/-! ## Duties by validator -/

/-- A duty whose key has been read. -/
structure KeyedDuty where
  key : PublicKey
  validator : ValidatorIndex
  slot : Slot
deriving DecidableEq, Inhabited, Repr

/-- Reads the key of a duty. -/
def Duty.keyed (duty : Duty) : Outcome KeyedDuty :=
  match PublicKey.ofText duty.pubkey with
  | .ok key => .ok ⟨key, duty.validator, duty.slot⟩
  | .error fault =>
    .error (.decode (s!"public key of validator {duty.validator}: " ++ fault.message))

/-- The slots of each validator, the last one first. -/
def slotsByValidator (duties : List KeyedDuty) : Std.ExtTreeMap ValidatorIndex (List Slot) :=
  duties.foldl
    (fun found duty => found.insert duty.validator (duty.slot :: found.getD duty.validator []))
    ∅

/-- The first duty of each validator, in order, apart from validators met before. -/
def firstDuties (met : Std.ExtTreeMap ValidatorIndex Unit) : List KeyedDuty → List KeyedDuty
  | [] => []
  | duty :: rest =>
    if duty.validator ∈ met then firstDuties met rest
    else duty :: firstDuties (met.insert duty.validator ()) rest

/-- One assignment for each validator, in the order in which validators first appear, with the key of the
first duty and all slots in order. -/
def gather (duties : List KeyedDuty) : List Assignment :=
  let slots := slotsByValidator duties
  (firstDuties ∅ duties).map fun duty =>
    ⟨duty.validator, duty.key, (slots.getD duty.validator []).mergeSort⟩

/-- Gathers duties by validator. A key that cannot be read is refused, whichever duty of its validator it
stands in. -/
def assignmentsOfDuties (duties : List Duty) : Outcome (List Assignment) :=
  (duties.mapM Duty.keyed).map gather

/-! ## Requests -/

/-- A beacon node at an address. -/
structure Beacon where
  /-- The address in front of every path, without slashes at its end. -/
  base : String
  length : EpochLength
  /-- The longest answer that is accepted, in bytes. -/
  maxBytes : Nat

namespace Beacon

/-- An address without the slashes at its end. -/
def withoutSlashes (address : String) : String :=
  String.ofList (address.toList.reverse.dropWhile (· = '/')).reverse

/-- The beacon node at an endpoint. -/
def ofEndpoint (endpoint : String) (slotsPerEpoch maxBytes : Nat) : Outcome Beacon := do
  return ⟨withoutSlashes endpoint, ← EpochLength.ofSlots slotsPerEpoch, maxBytes⟩

/-- What a response holds. A status that is no success is reported first; then a declared length beyond
the limit; then a body beyond it; then a body that ended early; then text that cannot be understood. -/
def digest {α : Type} (maxBytes : Nat) (path : String) (url : Url) (read : Document → Option α)
    (response : Web.Response) : Outcome α := do
  if ¬ Web.isSuccess response.status then
    throw (.unavailable s!"beacon node ({path} returned {Web.statusText response.status})")
  if let some size := response.declared then Web.checkSize size maxBytes
  let body ← Web.collect maxBytes response.chunks
  if ¬ response.isComplete then throw (.http (.badBody url.text))
  match (Document.ofBytes? body).bind read with
  | some value => return value
  | none => throw (.decode s!"{path}: {Web.jsonRemark}")

/-- Asks for a path, and reads the answer. -/
def fetch {α : Type} (beacon : Beacon) (path : String) (read : Document → Option α) :
    Dialogue Web (Outcome α) := do
  match Web.addressOf (beacon.base ++ path) with
  | .error failure => return .error failure
  | .ok url =>
    match ← Web.send ⟨.get, url, none⟩ with
    | none => return .error (.http (.unanswered url.text))
    | some response => return digest beacon.maxBytes path url read response

/-- The slot of the head of the chain. -/
def head (beacon : Beacon) : Dialogue Web (Outcome Slot) :=
  beacon.fetch "/eth/v1/beacon/headers/head" headSlot?

/-- The proposer duties of an epoch as they are reported. -/
def duties (beacon : Beacon) (epoch : Epoch) : Dialogue Web (Outcome (List Duty)) :=
  beacon.fetch s!"/eth/v1/validator/duties/proposer/{epoch}" dutyList?

/-- The assignments for an epoch. -/
def assignments (beacon : Beacon) (epoch : Epoch) : Dialogue Web (Outcome (List Assignment)) := do
  match (← beacon.duties epoch).bind assignmentsOfDuties with
  | .error failure => return .error failure
  | .ok assignments =>
    Dialogue.note [.debug
      s!"Fetched {assignments.length} proposer assignments for epoch {epoch}"]
    return .ok assignments

/-- The epoch after the one the head is in, and the assignments for it. That epoch is a number without an
upper end; it is no word if an epoch is one slot long and the head is in the last slot that a word can name,
and what 64-bit arithmetic does there is left out. -/
def upcoming (beacon : Beacon) : Dialogue Web (Outcome (Epoch × List Assignment)) := do
  match ← beacon.head with
  | .error failure => return .error failure
  | .ok head =>
    let next := beacon.length.epochOf head + 1
    return (← beacon.assignments next).map (next, ·)

end Beacon
end DutyRelay
