import DutyRelay.Dialogue
import DutyRelay.Payload
import DutyRelay.Retry

/-!
# The two nodes

What the relay asks of the nodes it stands between. The beacon node knows the head of the chain and the
duties of an epoch; the execution node takes a payload and says whether it accepts it. Every question can
fail.

## Contents
- `Nodes.Query`, `Nodes.Value`, `Nodes`: the interface.
- `Nodes.retrying`: every question repeated under a retry policy.
- `Calendar.publish`: one payload handed over.
-/

namespace DutyRelay

namespace Nodes

/-- A question to one of the nodes. -/
inductive Query where
  /-- Beacon node: the slot of the head of the chain. -/
  | head
  /-- Beacon node: the epoch after the one the head is in, and the assignments for it. -/
  | upcoming
  /-- Beacon node: the assignments for an epoch. -/
  | duties (epoch : Epoch)
  /-- Execution node: take a payload. -/
  | insert (payload : Payload)
deriving DecidableEq, Repr

/-- What a question is answered with if it does not fail. -/
abbrev Value : Query → Type
  | .head => Slot
  | .upcoming => Epoch × List Assignment
  | .duties _ => List Assignment
  | .insert _ => Bool

/-- What a question is about, as the journal names it. -/
def Query.label : Query → String
  | .head => "canonical head slot"
  | .upcoming => "next epoch assignments"
  | .duties _ => "validator assignments"
  | .insert _ => "insert minimal consensus info"

end Nodes

/-- The two nodes as one party: every question is answered or fails. -/
abbrev Nodes : Interface where
  Query := Nodes.Query
  Reply query := Outcome (Nodes.Value query)

namespace Nodes

variable {J : Interface}

/-- A way to answer the questions to the nodes by asking another party. -/
abbrev Answering (J : Interface) := (query : Query) → Dialogue J (Outcome (Value query))

/-- The questions put as they are. -/
def direct : Answering Nodes := fun query => @Dialogue.ask Nodes query

/-- Answers every question under a retry policy. -/
def retrying (policy : RetryPolicy) (answer : Answering J) : Answering J := fun query =>
  policy.retry query.label (answer query)

/-- The slot of the head of the chain. -/
def head : Dialogue Nodes (Outcome Slot) := direct .head

/-- The epoch after the one the head is in, and the assignments for it. -/
def upcoming : Dialogue Nodes (Outcome (Epoch × List Assignment)) := direct .upcoming

/-- The assignments for an epoch. -/
def duties (epoch : Epoch) : Dialogue Nodes (Outcome (List Assignment)) := direct (.duties epoch)

/-- Hands a payload to the execution node. -/
def insert (payload : Payload) : Dialogue Nodes (Outcome Bool) := direct (.insert payload)

end Nodes

/-! ## Publishing -/

/-- What the execution node says to a payload. -/
inductive Acknowledgement where
  | accepted
  | rejected
deriving DecidableEq, Inhabited, Repr

/-- The acknowledgement of several payloads together: accepted if each of them was. -/
def Acknowledgement.both : Acknowledgement → Acknowledgement → Acknowledgement
  | .accepted, .accepted => .accepted
  | _, _ => .rejected

/-- Hands the payload of a schedule to the execution node, once. A payload that is turned down is
reported and not sent again. -/
def Calendar.publish (calendar : Calendar) (schedule : Schedule) :
    Dialogue Nodes (Outcome Acknowledgement) := do
  let payload := calendar.payload schedule
  let epoch := payload.epoch
  let count := payload.keys.length
  Dialogue.note (schedule.payloadLines ++ [.info (s!"Publishing minimal consensus info for epoch " ++
    s!"{epoch} ({count} proposers, start {payload.start})")])
  match ← Nodes.insert payload with
  | .error failure => return .error failure
  | .ok true =>
    Dialogue.note [.info
      s!"Minimal consensus info accepted for epoch {epoch} ({count} proposers)"]
    return .ok .accepted
  | .ok false =>
    Dialogue.note [.warn
      s!"Minimal consensus info rejected for epoch {epoch} ({count} proposers)"]
    return .ok .rejected

end DutyRelay
