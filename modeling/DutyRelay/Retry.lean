import DutyRelay.Dialogue
import DutyRelay.Failure

/-!
# Bounded retry

A call that fails for a transient reason is tried again after a pause, a bounded number of times. The
pauses grow with the attempts, in a straight line or by doubling, and never exceed one minute.

## Contents
- `Backoff`, `RetryPolicy`, `RetryPolicy.once`, `RetryPolicy.standard`.
- `RetryPolicy.delayFor`: the pause after each failed attempt.
- `RetryPolicy.retry`: a call repeated under a policy.
-/

namespace DutyRelay

/-- How pauses grow with the attempts. -/
inductive Backoff where
  /-- The base delay times the attempt. -/
  | linear
  /-- The base delay, doubled with every attempt after the first. -/
  | exponential
deriving DecidableEq, Inhabited, Repr

/-- How often a call is made, and how long to wait in between. -/
structure RetryPolicy where
  /-- Attempts in all, the first one included; none counts as one. -/
  maxAttempts : Nat
  /-- The base delay. -/
  delay : Span
  backoff : Backoff
deriving DecidableEq, Inhabited, Repr

namespace RetryPolicy

/-- Exactly one attempt. -/
def once : RetryPolicy := ⟨1, Span.zero, .linear⟩

/-- Five attempts, five seconds apart at first. -/
def standard : RetryPolicy := ⟨5, Span.ofSeconds 5, .linear⟩

/-- No pause is longer than this. -/
def longestDelay : Span := Span.ofSeconds 60

/-- The multiple of the base delay to wait after an attempt, counted from one. A doubling beyond the
thirty-first power stands at the largest 32-bit number. -/
def factor (backoff : Backoff) (attempt : Nat) : Nat :=
  match backoff with
  | .linear => max attempt 1
  | .exponential => if attempt - 1 < 32 then Nat.pow 2 (attempt - 1) else Word.top32

/-- The pause after a failed attempt, counted from one. -/
def delayFor (policy : RetryPolicy) (attempt : Nat) : Span :=
  (policy.delay.times (factor policy.backoff attempt)).cap longestDelay

/-- How often a failing call is made at most. -/
def attempts (policy : RetryPolicy) : Nat := max policy.maxAttempts 1

variable {I : Interface} {α : Type}

/-- Makes a call with `spare` further attempts to go. -/
def retryWith (policy : RetryPolicy) (what : String) (call : Dialogue I (Outcome α)) :
    (spare : Nat) → Dialogue I (Outcome α)
  | 0 => do
    match ← call with
    | .ok value => return .ok value
    | .error failure =>
      if failure.isRetryable then
        Dialogue.note [.warn
          s!"{what} failed after {policy.attempts} attempts: {failure.message}"]
      return .error failure
  | spare + 1 => do
    match ← call with
    | .ok value => return .ok value
    | .error failure =>
      if failure.isRetryable then
        let attempt := policy.attempts - (spare + 1)
        let delay := policy.delayFor attempt
        Dialogue.note [.debug
          s!"Retrying {what} (attempt {attempt}/{policy.attempts}) in {delay.text}: {failure.message}"]
        Dialogue.pause delay
        retryWith policy what call spare
      else
        return .error failure

/-- Makes a call until it succeeds, fails for a reason that is not transient, or has been made as
often as the policy allows. The last outcome is the result. -/
def retry (policy : RetryPolicy) (what : String) (call : Dialogue I (Outcome α)) :
    Dialogue I (Outcome α) :=
  policy.retryWith what call (policy.attempts - 1)

end RetryPolicy
end DutyRelay
