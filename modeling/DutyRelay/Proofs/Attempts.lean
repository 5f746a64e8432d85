import DutyRelay.Proofs.Backoff
import DutyRelay.Proofs.Retrying

/-!
# How often a call is made, and how long is waited

The outcomes that a call would have, one after another, may be any sequence. Under a retry policy the call is made up
to the first outcome that is a success, or a failure that another attempt cannot mend, or up to the last attempt that
is allowed; and between two calls there is the pause that is due after the first of them. Counted from the first
attempt on, the number of the call under way never goes beyond what is allowed.

## Contents
- `events_retryWith_settled`, `events_retryWith_again`: a call that is made once, and one that is made again.
- `Calls`, `Calls.inTurn`: calls with given outcomes.
- `RetryPolicy.Repeats`, `exists_repeats`: what a policy makes of them.
- `RetryPolicy.counting`, `counting_eq`: the same with a counter of 32 bits.
- `RetryPolicy.Stops`, `retry_up_to_first_stop`: all of it together; `overloaded`: two failures and a success.
-/

namespace DutyRelay

namespace RetryPolicy

variable {I : Interface} {α σ : Type} {policy : RetryPolicy} {what : String}
  {call : Dialogue I (Outcome α)} {answer : (query : I.Query) → σ → I.Reply query × σ} {s : σ} {spare : Nat}

/-! ## One attempt -/

/-- With no attempt left, or an outcome that none can mend, nothing happens but the call. -/
theorem events_retryWith_settled (policy : RetryPolicy) (what : String)
    (h : spare = 0 ∨ ¬ isTransient (call.play answer s).value = true) :
    (policy.retryWith what call spare).events answer s = call.events answer s := by
  obtain ⟨next, heq, hnext⟩ := policy.exists_followUp what call spare
  rw [heq, Dialogue.events_bind]
  have hfollowUp := hnext (call.play answer s).value
  generalize next (call.play answer s).value = after at hfollowUp
  cases hfollowUp with
  | settled hfinal => exact List.append_nil _
  | spent htransient lines => exact List.append_nil _
  | again htransient lines => exact absurd htransient (h.resolve_left (Nat.succ_ne_zero _))

/-- After an outcome that may be mended there is a pause, and then what happens in the attempts that are left. -/
theorem events_retryWith_again (policy : RetryPolicy) (what : String)
    (h : isTransient (call.play answer s).value = true) :
    (policy.retryWith what call (spare + 1)).events answer s =
      call.events answer s ++ .pause (policy.delayFor (policy.attempts - (spare + 1))) ::
        (policy.retryWith what call spare).events answer (call.play answer s).state := by
  obtain ⟨next, heq, hnext⟩ := policy.exists_followUp what call (spare + 1)
  rw [heq, Dialogue.events_bind]
  have hfollowUp := hnext (call.play answer s).value
  generalize next (call.play answer s).value = after at hfollowUp
  cases hfollowUp with
  | settled hfinal => exact absurd h hfinal
  | again htransient lines => rfl

end RetryPolicy

/-! ## Calls with given outcomes -/

/-- A party that is asked for nothing but the outcome of the next call. -/
abbrev Calls (α : Type) : Interface := ⟨Unit, fun _ => Outcome α⟩

namespace Calls

variable {α : Type}

/-- The next call. -/
def next : Dialogue (Calls α) (Outcome α) := @Dialogue.ask (Calls α) ()

/-- The calls have the outcomes of a sequence, which is counted from one. What is kept is the number of calls made. -/
def inTurn (outcomes : Nat → Outcome α) (_ : Unit) (made : Nat) : Outcome α × Nat :=
  (outcomes (made + 1), made + 1)

/-- A call of which others notice nothing but its outcome. -/
def event (outcome : Outcome α) : Event (Calls α) := .exchange ⟨(), outcome⟩

end Calls

namespace RetryPolicy

variable {I : Interface} {α σ : Type} {policy : RetryPolicy} {what : String}
  {call : Dialogue I (Outcome α)} {outcomes : Nat → Outcome α} {spare made attempt : Nat}

/-- The pause after the call with a number, and the call after that. -/
def furtherCall (policy : RetryPolicy) (outcomes : Nat → Outcome α) (number : Nat) : List (Event (Calls α)) :=
  [.pause (policy.delayFor number), Calls.event (outcomes (number + 1))]

/-- What a policy makes of the outcomes after some calls: `again` further calls, one for each outcome that was worth
it, up to one that was not or until no attempt is left. -/
structure Repeats (policy : RetryPolicy) (what : String) (outcomes : Nat → Outcome α) (spare made again : Nat) :
    Prop where
  value : ((policy.retryWith what Calls.next spare).play (Calls.inTurn outcomes) made).value =
    outcomes (made + again + 1)
  state : ((policy.retryWith what Calls.next spare).play (Calls.inTurn outcomes) made).state = made + again + 1
  events : (policy.retryWith what Calls.next spare).events (Calls.inTurn outcomes) made =
    Calls.event (outcomes (made + 1)) :: (List.range' (made + 1) again).flatMap (policy.furtherCall outcomes)
  le : again ≤ spare
  transient : ∀ number, made < number → number ≤ made + again → isTransient (outcomes number) = true
  stop : isTransient (outcomes (made + again + 1)) = true → again = spare

theorem Repeats.settled (policy : RetryPolicy) (what : String)
    (h : spare = 0 ∨ ¬ isTransient (outcomes (made + 1)) = true) :
    policy.Repeats what outcomes spare made 0 := by
  have hfinal : spare = 0 ∨ ¬ isTransient (Calls.next.play (Calls.inTurn outcomes) made).value = true := h
  obtain ⟨hvalue, hstate, _⟩ := retryWith_settled policy what hfinal
  refine ⟨hvalue, hstate, events_retryWith_settled policy what hfinal, Nat.zero_le _, ?_, ?_⟩
  · intro number hlt hle
    exact absurd hle (Nat.not_le_of_lt hlt)
  · intro htransient
    rcases h with hspare | hsettled
    · exact hspare.symm
    · exact absurd htransient hsettled

/-- One call more, after an outcome that is worth it. -/
theorem Repeats.again {again : Nat} (h : policy.Repeats what outcomes spare (made + 1) again)
    (htransient : isTransient (outcomes (made + 1)) = true) (hspare : made + 1 + (spare + 1) = policy.attempts) :
    policy.Repeats what outcomes (spare + 1) made (again + 1) := by
  have hagain : isTransient (Calls.next.play (Calls.inTurn outcomes) made).value = true := htransient
  have hvalue : ((policy.retryWith what Calls.next (spare + 1)).play (Calls.inTurn outcomes) made).value = _ :=
    (retryWith_again policy what hagain).1
  have hstate : ((policy.retryWith what Calls.next (spare + 1)).play (Calls.inTurn outcomes) made).state = _ :=
    (retryWith_again policy what hagain).2.1
  have hevents : (policy.retryWith what Calls.next (spare + 1)).events (Calls.inTurn outcomes) made = _ :=
    events_retryWith_again policy what hagain
  have hlater : (policy.retryWith what Calls.next spare).events (Calls.inTurn outcomes)
      (Calls.next.play (Calls.inTurn outcomes) made).state = _ := h.events
  have hnumber : policy.attempts - (spare + 1) = made + 1 := by omega
  have hsum : made + (again + 1) = made + 1 + again := by omega
  constructor
  · rw [hsum]
    exact hvalue.trans h.value
  · rw [hsum]
    exact hstate.trans h.state
  · rw [hevents, hlater, hnumber, List.range'_succ, List.flatMap_cons]
    rfl
  · exact Nat.succ_le_succ h.le
  · intro number hlt hle
    rcases Nat.eq_or_lt_of_le (Nat.succ_le_of_lt hlt) with rfl | hlater
    · exact htransient
    · exact h.transient number hlater (by omega)
  · intro hstop
    rw [hsum] at hstop
    rw [h.stop hstop]

/-- **What a policy makes of any outcomes.** -/
theorem exists_repeats (policy : RetryPolicy) (what : String) (outcomes : Nat → Outcome α) (spare made : Nat)
    (h : made + 1 + spare = policy.attempts) : ∃ again, policy.Repeats what outcomes spare made again := by
  induction spare generalizing made with
  | zero => exact ⟨0, Repeats.settled policy what (Or.inl rfl)⟩
  | succ spare ih =>
    by_cases htransient : isTransient (outcomes (made + 1)) = true
    · obtain ⟨again, hagain⟩ := ih (made + 1) (by omega)
      exact ⟨again + 1, hagain.again htransient h⟩
    · exact ⟨0, Repeats.settled policy what (Or.inr htransient)⟩

/-! ## The counter -/

/-- A call made under a policy with a counter of the attempts, in a word of 32 bits, that goes up from the number of
the next one. There is no outcome if the counter ever has to leave its word. -/
def counting (policy : RetryPolicy) (what : String) (call : Dialogue I (Outcome α)) (attempt : Nat) :
    Dialogue I (Option (Outcome α)) := do
  match ← call with
  | .ok value => return some (.ok value)
  | .error failure =>
    if _ : attempt < policy.attempts ∧ failure.isRetryable = true then
      let delay := policy.delayFor attempt
      Dialogue.note [.debug
        s!"Retrying {what} (attempt {attempt}/{policy.attempts}) in {delay.text}: {failure.message}"]
      Dialogue.pause delay
      if attempt < Word.top32 then counting policy what call (attempt + 1)
      else return none
    else
      if failure.isRetryable then
        Dialogue.note [.warn s!"{what} failed after {attempt} attempts: {failure.message}"]
      return some (.error failure)
termination_by policy.attempts - attempt

/-- **The counter stays in its word**, as long as the number of attempts allowed is in it: all happens as with a count
of the attempts that are left. -/
theorem counting_eq (policy : RetryPolicy) (what : String) (call : Dialogue I (Outcome α))
    (hword : policy.attempts ≤ Word.top32) (h : attempt + spare = policy.attempts) :
    policy.counting what call attempt = some <$> policy.retryWith what call spare := by
  induction spare generalizing attempt with
  | zero =>
    obtain rfl : attempt = policy.attempts := h
    unfold counting retryWith
    rw [map_eq_pure_bind, Dialogue.bind_eq_bind, Dialogue.bind_eq_bind, Dialogue.bind_eq_bind, Dialogue.bind_assoc]
    refine congrArg call.bind (funext fun outcome => ?_)
    cases outcome with
    | ok value => rfl
    | error failure =>
      by_cases hretryable : failure.isRetryable = true
      · simp [hretryable, Dialogue.note, Dialogue.bind]
      · simp [hretryable, Dialogue.bind]
  | succ spare ih =>
    have hleft : attempt < policy.attempts := by omega
    have hfits : attempt < Word.top32 := Nat.lt_of_lt_of_le hleft hword
    have hnumber : policy.attempts - (spare + 1) = attempt := by omega
    have hlater : policy.counting what call (attempt + 1) = some <$> policy.retryWith what call spare :=
      ih (by omega)
    unfold counting retryWith
    rw [map_eq_pure_bind, Dialogue.bind_eq_bind, Dialogue.bind_eq_bind, Dialogue.bind_eq_bind, Dialogue.bind_assoc]
    refine congrArg call.bind (funext fun outcome => ?_)
    cases outcome with
    | ok value => rfl
    | error failure =>
      by_cases hretryable : failure.isRetryable = true
      · simp [hleft, hretryable, hfits, hnumber, hlater, Dialogue.note, Dialogue.pause, Dialogue.bind,
          map_eq_pure_bind]
      · simp [hretryable, Dialogue.bind]

/-! ## All of it together -/

/-- No call follows the one with this number: it has succeeded, or failed for a reason that another attempt cannot
mend, or no attempt is left. -/
def Stops (policy : RetryPolicy) (outcomes : Nat → Outcome α) (number : Nat) : Prop :=
  (∃ value, outcomes number = .ok value) ∨
    (∃ failure, outcomes number = .error failure ∧ failure.isRetryable = false) ∨
    number = max 1 policy.maxAttempts

theorem stops_iff {number : Nat} :
    policy.Stops outcomes number ↔ ¬ isTransient (outcomes number) = true ∨ number = max 1 policy.maxAttempts := by
  unfold Stops isTransient
  cases outcomes number with
  | ok value => simp
  | error failure => simp

/-- A call made under a policy until it stops, with given outcomes. -/
def played (policy : RetryPolicy) (what : String) (outcomes : Nat → Outcome α) : Dialogue.Played Nat (Outcome α) :=
  (policy.retry what Calls.next).play (Calls.inTurn outcomes) 0

theorem attempts_eq (policy : RetryPolicy) : policy.attempts = max 1 policy.maxAttempts := Nat.max_comm _ _

/-- The last call is the first one that stops. -/
theorem Repeats.isLeast {again : Nat} (h : policy.Repeats what outcomes (policy.attempts - 1) 0 again) :
    IsLeast {number | 1 ≤ number ∧ policy.Stops outcomes number} (again + 1) := by
  have hattempts := policy.attempts_eq
  have hle := h.le
  constructor
  · refine ⟨Nat.le_add_left 1 again, stops_iff.mpr ?_⟩
    by_cases htransient : isTransient (outcomes (again + 1)) = true
    · have hspent : again = policy.attempts - 1 := h.stop (by rwa [Nat.zero_add])
      exact Or.inr (by omega)
    · exact Or.inl htransient
  · rintro number ⟨hpos, hstops⟩
    apply Nat.le_of_not_lt
    intro hlt
    rcases stops_iff.mp hstops with hfinal | hlast
    · exact hfinal (h.transient number hpos (by omega))
    · omega

/-- The pauses are those that are due after the calls before the last one. -/
theorem Repeats.pauses_eq {again : Nat} (h : policy.Repeats what outcomes (policy.attempts - 1) 0 again) :
    (policy.played what outcomes).pauses = (List.range' 1 again).map policy.delayFor := by
  have hevents : (policy.retry what Calls.next).events (Calls.inTurn outcomes) 0 = _ := h.events
  unfold played
  rw [Dialogue.pauses_eq, hevents, Nat.zero_add]
  show ((List.range' 1 again).flatMap (policy.furtherCall outcomes)).filterMap Event.pause? = _
  rw [List.filterMap_flatMap, List.map_eq_flatMap]
  rfl

theorem pairwise_delayFor (policy : RetryPolicy) (again : Nat) :
    ((List.range' 1 again).map policy.delayFor).Pairwise fun earlier later => earlier.nanos ≤ later.nanos := by
  rw [List.pairwise_map]
  exact (List.pairwise_lt_range' 1 Nat.one_pos).imp fun hlt => policy.delayFor_mono (Nat.le_of_lt hlt)

theorem mem_map_delayFor_le {numbers : List Nat} :
    ∀ pause ∈ numbers.map policy.delayFor, pause.nanos ≤ (Span.ofSeconds 60).nanos := by
  intro pause hpause
  obtain ⟨number, _, rfl⟩ := List.mem_map.mp hpause
  exact policy.delayFor_le number

theorem sum_nanos_le {pauses : List Span} {most : Nat} (h : ∀ pause ∈ pauses, pause.nanos ≤ most) :
    (pauses.map Span.nanos).sum ≤ most * pauses.length := by
  have hsum := List.sum_le_card_nsmul (pauses.map Span.nanos) most fun nanos hnanos => by
    obtain ⟨pause, hpause, rfl⟩ := List.mem_map.mp hnanos
    exact h pause hpause
  rwa [List.length_map, smul_eq_mul, Nat.mul_comm] at hsum

/-- **A call is made up to the first outcome that stops it.** Let `k` be the number of the first call that succeeds, or
fails for a reason that another attempt cannot mend, or is the last one allowed. Then the call is made `k` times, its
last outcome is the outcome of the whole, and after each call but the last there is the pause that is due after it. The
pauses never shrink, none is longer than a minute, and so all together take a minute at most for every attempt but one.
A counter of the attempts stays in a word of 32 bits if the number of attempts allowed is in it. -/
theorem retry_up_to_first_stop (policy : RetryPolicy) (what : String) (outcomes : Nat → Outcome α) :
    ∃ k, IsLeast {number | 1 ≤ number ∧ policy.Stops outcomes number} k ∧
      (policy.played what outcomes).value = outcomes k ∧
      (policy.played what outcomes).state = k ∧
      (policy.retry what Calls.next).events (Calls.inTurn outcomes) 0 =
        Calls.event (outcomes 1) :: (List.range' 1 (k - 1)).flatMap (fun number =>
          [.pause (policy.delayFor number), Calls.event (outcomes (number + 1))]) ∧
      (policy.played what outcomes).pauses = (List.range' 1 (k - 1)).map policy.delayFor ∧
      (policy.played what outcomes).pauses.Pairwise (fun earlier later => earlier.nanos ≤ later.nanos) ∧
      (∀ pause ∈ (policy.played what outcomes).pauses, pause.nanos ≤ (Span.ofSeconds 60).nanos) ∧
      ((policy.played what outcomes).pauses.map Span.nanos).sum ≤
        (Span.ofSeconds 60).nanos * (max 1 policy.maxAttempts - 1) ∧
      (policy.maxAttempts ≤ Word.top32 →
        k ≤ Word.top32 ∧
          policy.counting what (Calls.next : Dialogue (Calls α) (Outcome α)) 1 =
            some <$> policy.retry what Calls.next) := by
  have hattempts := policy.attempts_eq
  obtain ⟨again, hagain⟩ := policy.exists_repeats what outcomes (policy.attempts - 1) 0 (by omega)
  have hleast := hagain.isLeast
  have hle := hagain.le
  have hpauses := hagain.pauses_eq
  have hvalue := hagain.value
  have hstate := hagain.state
  have hevents := hagain.events
  rw [Nat.zero_add] at hvalue hstate hevents
  refine ⟨again + 1, hleast, hvalue, hstate, hevents, hpauses, ?_, ?_, ?_, ?_⟩
  · rw [hpauses]
    exact pairwise_delayFor policy again
  · rw [hpauses]
    exact mem_map_delayFor_le
  · rw [hpauses]
    refine Nat.le_trans (sum_nanos_le mem_map_delayFor_le) (Nat.mul_le_mul_left _ ?_)
    rw [List.length_map, List.length_range']
    omega
  · intro hword
    have hone : 1 ≤ Word.top32 := by decide
    exact ⟨by omega, counting_eq policy what Calls.next (by omega) (by omega)⟩

/-- Two failures of a kind that passes, and then a success. -/
def overloaded : Nat → Outcome Nat
  | 1 => .error (.timeout (Span.ofSeconds 1))
  | 2 => .error (.unavailable "beacon node")
  | _ => .ok 7

/-- With five attempts the third one succeeds, after pauses of one and of two seconds. -/
theorem retry_overloaded :
    5 ≤ Word.top32 ∧
    (played ⟨5, Span.ofSeconds 1, .exponential⟩ "head slot" overloaded).value = .ok 7 ∧
    (played ⟨5, Span.ofSeconds 1, .exponential⟩ "head slot" overloaded).state = 3 ∧
    (played ⟨5, Span.ofSeconds 1, .exponential⟩ "head slot" overloaded).pauses =
      [Span.ofSeconds 1, Span.ofSeconds 2] ∧
    counting ⟨5, Span.ofSeconds 1, .exponential⟩ "head slot" (Calls.next : Dialogue (Calls Nat) (Outcome Nat)) 1 =
      some <$> retry ⟨5, Span.ofSeconds 1, .exponential⟩ "head slot" Calls.next := by
  obtain ⟨k, _, hvalue, hstate, _, hpauses, _, _, _, hcounting⟩ :=
    retry_up_to_first_stop ⟨5, Span.ofSeconds 1, .exponential⟩ "head slot" overloaded
  have hthree : k = 3 := hstate.symm
  subst hthree
  exact ⟨by decide, hvalue, hstate, hpauses.trans (by decide), (hcounting (by decide)).2⟩

end RetryPolicy
end DutyRelay
