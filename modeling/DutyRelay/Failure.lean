import DutyRelay.Epoch
import DutyRelay.Span

/-!
# Failures

Everything that can end a refresh early is a `Failure`, recorded by its cause. The cause decides two
things: the text, in `Failure.message`, and the class, in `Failure.kind`. Only a transient failure is
worth another attempt.

## Contents
- `ConfigFault`: a configuration value that cannot be used.
- `HttpFault`: a request that brought no usable answer.
- `Failure`, `Failure.message`, `Failure.kind`, `Failure.isRetryable`.
-/

namespace DutyRelay

/-! ## Configuration values -/

/-- A configuration value that cannot be used. -/
inductive ConfigFault where
  /-- Slots per epoch outside the accepted range. -/
  | slotsPerEpoch (value greatest : Nat)
  /-- A span that has to be longer than zero. -/
  | zeroSpan (name : String)
  | zeroRetries
  | zeroResponseSize
  /-- An endpoint that is no web address. -/
  | endpoint (name value : String)
deriving DecidableEq, Repr

def ConfigFault.message : ConfigFault → String
  | .slotsPerEpoch value greatest =>
    s!"slots per epoch must be in 1..={greatest}, got {value}"
  | .zeroSpan name => s!"{name} must be greater than zero"
  | .zeroRetries => "max retries must be at least 1"
  | .zeroResponseSize => "max response size must be greater than zero"
  | .endpoint name value => s!"invalid {name} endpoint: {value}"

/-! ## Requests -/

/-- Why a request brought no usable answer. -/
inductive HttpFault where
  /-- The address is none that a request can go to, so nothing was sent. It is given where it could
  be read at all. -/
  | badAddress (address : Option String)
  /-- No answer came: no connection, a connection that was dropped, or a wait that ran out. -/
  | unanswered (address : String)
  /-- The answer ended early or did not have the form that was asked for. -/
  | badBody (address : String)
deriving DecidableEq, Repr

def HttpFault.message : HttpFault → String
  | .badAddress none => "builder error"
  | .badAddress (some address) => s!"builder error for url ({address})"
  | .unanswered address => s!"error sending request for url ({address})"
  | .badBody address => s!"error decoding response body for url ({address})"

/-- Whether the request as such was sound, so that sending it again may help. -/
def HttpFault.isUnanswered : HttpFault → Bool
  | .unanswered _ => true
  | .badAddress _ => false
  | .badBody _ => false

/-! ## Failures of a refresh -/

/-- Broad classes of failure. -/
inductive Kind where
  /-- A node did not answer, or not yet: try again on the next attempt or tick. -/
  | transient
  /-- Two observations of one slot disagree. -/
  | inconsistent
  /-- Data or configuration that cannot be right. -/
  | malformed
  /-- The relay cannot go on. -/
  | irrecoverable
deriving DecidableEq, Inhabited, Repr

def Kind.name : Kind → String
  | .transient => "TRANSIENT"
  | .inconsistent => "INCONSISTENT"
  | .malformed => "MALFORMED"
  | .irrecoverable => "IRRECOVERABLE"

/-- Only a transient failure is worth another attempt. -/
def Kind.isRetryable (kind : Kind) : Bool := kind = .transient

/-- Why a refresh, or a part of one, ended without a result. -/
inductive Failure where
  | http (fault : HttpFault)
  /-- The execution node answered with an error of its own. -/
  | rpc (code : Int) (text : String)
  | timeout (after : Span)
  /-- Something that was asked for is not there. -/
  | unavailable (what : String)
  /-- So many slots of an epoch have changed their proposer. -/
  | conflict (epoch : Epoch) (count : Nat)
  | slotOutsideEpoch (slot : Slot) (epoch : Epoch)
  | invalidSlotsPerEpoch (value : Nat)
  | epochMismatch (expected actual : Epoch)
  /-- The head entered another epoch between two reads. -/
  | headMoved (expected actual : Epoch)
  /-- An answer that could not be understood. -/
  | decode (text : String)
  | responseTooLarge (size limit : Nat)
  | startup (text : String)
  | config (fault : ConfigFault)
deriving DecidableEq, Repr

/-- What an operation brings that can fail. -/
abbrev Outcome (α : Type) := Except Failure α

namespace Failure

def message : Failure → String
  | .http fault => "HTTP error: " ++ fault.message
  | .rpc code text => s!"RPC error {code}: {text}"
  | .timeout after => "request timed out after " ++ after.text
  | .unavailable what => s!"{what} unavailable"
  | .conflict epoch count => s!"{count} proposer conflict(s) in epoch {epoch}"
  | .slotOutsideEpoch slot epoch => s!"slot {slot} is outside epoch {epoch}"
  | .invalidSlotsPerEpoch value => s!"invalid slots per epoch: {value}"
  | .epochMismatch expected actual => s!"expected epoch {expected}, got {actual}"
  | .headMoved expected actual =>
    s!"head moved: expected assignments for epoch {expected}, got {actual}"
  | .decode text => "failed to decode response: " ++ text
  | .responseTooLarge size limit => s!"response of {size} bytes exceeds limit of {limit} bytes"
  | .startup text => "startup failed: " ++ text
  | .config fault => "invalid configuration: " ++ fault.message

/-- The codes by which the execution node says that the request itself is at fault: no readable
JSON, no valid request, an unknown method, invalid parameters. -/
def requestFaultCodes : List Int := [-32700, -32600, -32601, -32602]

/-- The class of a failure. -/
def kind : Failure → Kind
  | .http fault => if fault.isUnanswered then .transient else .malformed
  | .rpc code _ => if code ∈ requestFaultCodes then .malformed else .transient
  | .timeout _ => .transient
  | .unavailable _ => .transient
  | .headMoved _ _ => .transient
  | .conflict _ _ => .inconsistent
  | .slotOutsideEpoch _ _ => .malformed
  | .invalidSlotsPerEpoch _ => .malformed
  | .epochMismatch _ _ => .malformed
  | .decode _ => .malformed
  | .responseTooLarge _ _ => .malformed
  | .startup _ => .irrecoverable
  | .config _ => .irrecoverable

/-- Whether another attempt may help. -/
def isRetryable (failure : Failure) : Bool := failure.kind.isRetryable

end Failure

/-- The epoch length of a number of slots, which has to be above zero. -/
def EpochLength.ofSlots (slots : Nat) : Outcome EpochLength :=
  if h : 0 < slots then .ok ⟨slots, h⟩ else .error (.invalidSlotsPerEpoch slots)

end DutyRelay
