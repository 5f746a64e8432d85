import DutyRelay.CommandLine
import DutyRelay.Main
import DutyRelay.Service
import DutyRelay.Proofs.Step
import DutyRelay.Proofs.Window
import DutyRelay.Proofs.Rotation
import DutyRelay.Proofs.Retrying
import DutyRelay.Proofs.Verdict
import DutyRelay.Proofs.Tick
import DutyRelay.Proofs.Clean
import DutyRelay.Proofs.Run
import DutyRelay.Proofs.Coherence
import DutyRelay.Proofs.Invisibility
import DutyRelay.Proofs.Precedence
import DutyRelay.Proofs.Publication
import DutyRelay.Proofs.Agreement
import DutyRelay.Proofs.Answers
import DutyRelay.Proofs.Completion
import DutyRelay.Proofs.Progression
import DutyRelay.Proofs.Fidelity
import DutyRelay.Proofs.Building
import DutyRelay.Proofs.Comparison
import DutyRelay.Proofs.LastWord
import DutyRelay.Proofs.Roster
import DutyRelay.Proofs.Enumeration
import DutyRelay.Proofs.Sentinel
import DutyRelay.Proofs.Contradiction
import DutyRelay.Proofs.Reordering
import DutyRelay.Proofs.Headcount
import DutyRelay.Proofs.KeyText
import DutyRelay.Proofs.Gathering
import DutyRelay.Proofs.FromDuties
import DutyRelay.Proofs.Unshifted
import DutyRelay.Proofs.Provenance
import DutyRelay.Proofs.Delivery
import DutyRelay.Proofs.Via
import DutyRelay.Proofs.Inquiry
import DutyRelay.Proofs.Transcript
import DutyRelay.Proofs.Revalidation
import DutyRelay.Proofs.Steadiness
import DutyRelay.Proofs.Timeline
import DutyRelay.Proofs.Cadence
import DutyRelay.Proofs.Submission
import DutyRelay.Proofs.Selection
import DutyRelay.Proofs.Tracking
import DutyRelay.Proofs.Backoff
import DutyRelay.Proofs.Attempts
import DutyRelay.Proofs.StartTimes
import DutyRelay.Proofs.BoundedReading
import DutyRelay.Proofs.Decimal
import DutyRelay.Proofs.Numerals
import DutyRelay.Proofs.Documents
import DutyRelay.Proofs.Integers
import DutyRelay.Proofs.CheckedSlots
import DutyRelay.Proofs.KeyCodec
import DutyRelay.Proofs.Endpoints
import DutyRelay.Proofs.RequestBody
