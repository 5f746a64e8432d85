import DutyRelay.Retry

/-!
# Configuration

Where the two nodes are, how the chain counts time, and how patient the relay is. `Config.check` refuses
a value that could not work and names the first one it meets; `Config.check_eq_ok_iff` says exactly which
configurations pass.

## Contents
- `Revalidation`: when the duties of the current epoch are fetched again.
- `Config`, `Config.standard`, `Config.check`, `Config.retryPolicy`.
- `Config.check_eq_ok_iff`, `Config.slots_pos_of_check`, `Config.pollInterval_pos_of_check`.
-/

namespace DutyRelay

/-- When the duties of the current epoch are fetched again, to be compared with those fetched for the
same epoch when it was still to come. -/
inductive Revalidation where
  /-- At every transition. -/
  | always
  /-- At the first transition only. There is nothing to compare with then, so the comparison is never
  made; later the current epoch is fetched only if its schedule is missing. -/
  | firstRunOnly
deriving DecidableEq, Inhabited, Repr

/-- The configuration of the relay. -/
structure Config where
  beaconEndpoint : String
  executionEndpoint : String
  /-- From one look at the head to the next. -/
  pollInterval : Span
  slotsPerEpoch : Nat
  slotDuration : Span
  /-- Unix time of the first slot. -/
  genesisTime : Nat
  /-- Attempts for each call to a node, the first one included. -/
  maxRetries : Nat
  /-- Base delay between attempts. -/
  retryDelay : Span
  backoff : Backoff
  /-- The longest answer accepted from the beacon node, in bytes. -/
  maxResponseBytes : Nat
  /-- How long to wait for the answer to a request. -/
  requestTimeout : Span
  revalidation : Revalidation
deriving DecidableEq, Inhabited, Repr

namespace Config

/-- Two local nodes on a chain that starts at the given Unix time. -/
def standard (genesisTime : Nat) : Config where
  beaconEndpoint := "http://127.0.0.1:3500"
  executionEndpoint := "http://127.0.0.1:8545"
  pollInterval := Span.ofSeconds 10
  slotsPerEpoch := EpochLength.standard.slots
  slotDuration := Span.ofSeconds 6
  genesisTime := genesisTime
  maxRetries := 5
  retryDelay := Span.ofSeconds 5
  backoff := .linear
  maxResponseBytes := 4 * 1024 * 1024
  requestTimeout := Span.ofSeconds 30
  revalidation := .always

/-- The greatest number of slots per epoch that is accepted. -/
def greatestSlotsPerEpoch : Nat := 65536

/-- The schemes an endpoint may have. -/
def schemes : List String := ["http://", "https://"]

/-- Whether the text is a scheme of a web address with something behind it. -/
def isEndpoint (text : String) : Bool :=
  schemes.any fun scheme =>
    scheme.toList.isPrefixOf text.toList && scheme.toList.length < text.toList.length

/-- Looks for the first value that cannot be used. -/
def check (config : Config) : Except ConfigFault Unit :=
  if config.slotsPerEpoch = 0 ∨ greatestSlotsPerEpoch < config.slotsPerEpoch then
    .error (.slotsPerEpoch config.slotsPerEpoch greatestSlotsPerEpoch)
  else if config.pollInterval = Span.zero then .error (.zeroSpan "poll interval")
  else if config.slotDuration = Span.zero then .error (.zeroSpan "slot duration")
  else if config.requestTimeout = Span.zero then .error (.zeroSpan "request timeout")
  else if config.maxRetries = 0 then .error .zeroRetries
  else if config.maxResponseBytes = 0 then .error .zeroResponseSize
  else if ¬ isEndpoint config.beaconEndpoint then
    .error (.endpoint "beacon" config.beaconEndpoint)
  else if ¬ isEndpoint config.executionEndpoint then
    .error (.endpoint "execution" config.executionEndpoint)
  else .ok ()

/-- The retry policy of all calls to the nodes. -/
def retryPolicy (config : Config) : RetryPolicy :=
  ⟨config.maxRetries, config.retryDelay, config.backoff⟩

/-! ## What a passed check means -/

/-- A configuration passes exactly when each of its values can be used. -/
theorem check_eq_ok_iff {config : Config} : config.check = .ok () ↔
    (0 < config.slotsPerEpoch ∧ config.slotsPerEpoch ≤ greatestSlotsPerEpoch) ∧
    config.pollInterval ≠ Span.zero ∧ config.slotDuration ≠ Span.zero ∧
    config.requestTimeout ≠ Span.zero ∧ config.maxRetries ≠ 0 ∧ config.maxResponseBytes ≠ 0 ∧
    isEndpoint config.beaconEndpoint ∧ isEndpoint config.executionEndpoint := by
  unfold check
  split
  · simp; omega
  · repeat (split; · simp_all)
    simp_all; omega

theorem slots_pos_of_check {config : Config} (h : config.check = .ok ()) :
    0 < config.slotsPerEpoch :=
  (check_eq_ok_iff.1 h).1.1

theorem pollInterval_pos_of_check {config : Config} (h : config.check = .ok ()) :
    0 < config.pollInterval.nanos := by
  have hne := (check_eq_ok_iff.1 h).2.1
  refine Nat.pos_of_ne_zero fun h0 => hne ?_
  exact Span.ext h0

end Config
end DutyRelay
