import DutyRelay.Proofs.Timeline
import DutyRelay.Retry

/-!
# A call made again and again

Under a retry policy a call is made until it succeeds, until it fails for a reason that another attempt cannot mend,
or until no attempt is left. Each attempt goes on in the state in which the one before it has left the other party. So
all there is to know is in which states the attempts find it: what is said is what is said in each attempt, one after
another, and the last attempt has the outcome.

## Contents
- `isTransient`: outcomes that are worth another attempt.
- `FollowUp`, `exists_followUp`: what follows an outcome.
- `retryWith_settled`, `retryWith_again`: a call that is made once, and one that is made again.
- `tries`: the states in which the attempts find the other party; `length_tries_le`, `mem_tries_transient`.
- `tries_stop`, `said_retryWith`: a call under a policy by its attempts.
- `tries_inv`: what every attempt preserves.
-/

namespace DutyRelay

namespace RetryPolicy

variable {I : Interface} {α σ : Type} {policy : RetryPolicy} {what : String}
  {call : Dialogue I (Outcome α)} {answer : (query : I.Query) → σ → I.Reply query × σ} {s : σ}
  {spare : Nat}

/-- The outcome is a failure that another attempt may mend. -/
def isTransient : Outcome α → Bool
  | .ok _ => false
  | .error failure => failure.isRetryable

theorem exists_failure_of_isTransient {outcome : Outcome α} (h : isTransient outcome = true) :
    ∃ failure, outcome = .error failure := by
  cases outcome with
  | ok value => cases h
  | error failure => exact ⟨failure, rfl⟩

/-! ## One attempt -/

/-- What follows an outcome, with `spare` further attempts to go: nothing more after one that no attempt can mend; a
report if it may be mended and no attempt is left; otherwise a report, a pause, and the call again. -/
inductive FollowUp (policy : RetryPolicy) (what : String) (call : Dialogue I (Outcome α)) :
    (spare : Nat) → Outcome α → Dialogue I (Outcome α) → Prop
  | settled {spare outcome} (hfinal : ¬ isTransient outcome = true) :
      FollowUp policy what call spare outcome (.done outcome)
  | spent {outcome} (htransient : isTransient outcome = true) (lines : List Line) :
      FollowUp policy what call 0 outcome (.noting lines (.done outcome))
  | again {spare outcome} (htransient : isTransient outcome = true) (lines : List Line) :
      FollowUp policy what call (spare + 1) outcome (.noting lines
        (.pausing (policy.delayFor (policy.attempts - (spare + 1))) (policy.retryWith what call spare)))

/-- **A call under a policy is the call and what follows its outcome.** -/
theorem exists_followUp (policy : RetryPolicy) (what : String) (call : Dialogue I (Outcome α)) (spare : Nat) :
    ∃ next, policy.retryWith what call spare = call.bind next ∧
      ∀ outcome, policy.FollowUp what call spare outcome (next outcome) := by
  cases spare with
  | zero =>
    refine ⟨_, rfl, fun outcome => ?_⟩
    cases outcome with
    | ok value => exact .settled Bool.false_ne_true
    | error failure =>
      by_cases hretryable : failure.isRetryable = true
      · have htransient : isTransient (.error failure : Outcome α) = true := hretryable
        simp only [hretryable, if_true]
        exact .spent htransient _
      · simp only [hretryable]
        exact .settled hretryable
  | succ spare =>
    refine ⟨_, rfl, fun outcome => ?_⟩
    cases outcome with
    | ok value => exact .settled Bool.false_ne_true
    | error failure =>
      by_cases hretryable : failure.isRetryable = true
      · have htransient : isTransient (.error failure : Outcome α) = true := hretryable
        simp only [hretryable, if_true]
        exact .again htransient _
      · simp only [hretryable]
        exact .settled hretryable

/-- With no attempt left, or an outcome that none can mend, the call is made once. -/
theorem retryWith_settled (policy : RetryPolicy) (what : String)
    (h : spare = 0 ∨ ¬ isTransient (call.play answer s).value = true) :
    ((policy.retryWith what call spare).play answer s).value = (call.play answer s).value ∧
      ((policy.retryWith what call spare).play answer s).state = (call.play answer s).state ∧
      (policy.retryWith what call spare).said answer s = call.said answer s := by
  obtain ⟨next, heq, hnext⟩ := policy.exists_followUp what call spare
  rw [heq, Dialogue.play_bind, Dialogue.said_bind]
  have hfollowUp := hnext (call.play answer s).value
  generalize next (call.play answer s).value = after at hfollowUp
  cases hfollowUp with
  | settled hfinal => exact ⟨rfl, rfl, List.append_nil _⟩
  | spent htransient lines => exact ⟨rfl, rfl, List.append_nil _⟩
  | again htransient lines => exact absurd htransient (h.resolve_left (Nat.succ_ne_zero _))

/-- After an outcome that may be mended, the call is made again, in the state that it has left. -/
theorem retryWith_again (policy : RetryPolicy) (what : String)
    (h : isTransient (call.play answer s).value = true) :
    ((policy.retryWith what call (spare + 1)).play answer s).value =
        ((policy.retryWith what call spare).play answer (call.play answer s).state).value ∧
      ((policy.retryWith what call (spare + 1)).play answer s).state =
        ((policy.retryWith what call spare).play answer (call.play answer s).state).state ∧
      (policy.retryWith what call (spare + 1)).said answer s =
        call.said answer s ++ (policy.retryWith what call spare).said answer (call.play answer s).state := by
  obtain ⟨next, heq, hnext⟩ := policy.exists_followUp what call (spare + 1)
  rw [heq, Dialogue.play_bind, Dialogue.said_bind]
  have hfollowUp := hnext (call.play answer s).value
  generalize next (call.play answer s).value = after at hfollowUp
  cases hfollowUp with
  | settled hfinal => exact absurd h hfinal
  | again htransient lines => exact ⟨rfl, rfl, rfl⟩

/-! ## The attempts -/

/-- The states in which the attempts find the other party, with `spare` further attempts to go. -/
def tries (call : Dialogue I (Outcome α)) (answer : (query : I.Query) → σ → I.Reply query × σ) :
    (spare : Nat) → σ → List σ
  | 0, s => [s]
  | spare + 1, s =>
    s :: if isTransient (call.play answer s).value then tries call answer spare (call.play answer s).state
      else []

theorem tries_of_transient (h : isTransient (call.play answer s).value = true) :
    tries call answer (spare + 1) s = s :: tries call answer spare (call.play answer s).state := by
  show s :: (if _ then _ else _) = _
  rw [if_pos h]

theorem tries_of_not_transient (h : ¬ isTransient (call.play answer s).value = true) :
    tries call answer spare s = [s] := by
  cases spare with
  | zero => rfl
  | succ spare =>
    show s :: (if _ then _ else _) = _
    rw [if_neg h]

theorem exists_tries (call : Dialogue I (Outcome α))
    (answer : (query : I.Query) → σ → I.Reply query × σ) (spare : Nat) (s : σ) :
    ∃ later, tries call answer spare s = s :: later := by
  cases spare with
  | zero => exact ⟨[], rfl⟩
  | succ spare => exact ⟨_, rfl⟩

theorem length_tries_le (call : Dialogue I (Outcome α))
    (answer : (query : I.Query) → σ → I.Reply query × σ) (spare : Nat) (s : σ) :
    (tries call answer spare s).length ≤ spare + 1 := by
  induction spare generalizing s with
  | zero => exact Nat.le_refl 1
  | succ spare ih =>
    by_cases htransient : isTransient (call.play answer s).value = true
    · rw [tries_of_transient htransient, List.length_cons]
      exact Nat.succ_le_succ (ih _)
    · rw [tries_of_not_transient htransient]
      simp

/-- There is one attempt at least, even if the policy allows none. -/
theorem attempts_pred_succ (policy : RetryPolicy) : policy.attempts - 1 + 1 = max 1 policy.maxAttempts := by
  unfold attempts
  omega

/-- Whenever there is a further attempt, the outcome of the one before it was worth it. -/
theorem mem_tries_transient {earlier later : List σ} {between : σ}
    (h : tries call answer spare s = earlier ++ between :: later) (hlater : later ≠ []) :
    isTransient (call.play answer between).value = true := by
  induction spare generalizing s earlier with
  | zero =>
    have hlength := congrArg List.length h
    have hpos := List.length_pos_iff.mpr hlater
    simp only [tries, List.length_append, List.length_cons, List.length_nil] at hlength
    omega
  | succ spare ih =>
    by_cases htransient : isTransient (call.play answer s).value = true
    · rw [tries_of_transient htransient] at h
      cases earlier with
      | nil =>
        obtain ⟨rfl, _⟩ := List.cons.inj h
        exact htransient
      | cons first earlier => exact ih (List.cons.inj h).2
    · rw [tries_of_not_transient htransient] at h
      have hlength := congrArg List.length h
      have hpos := List.length_pos_iff.mpr hlater
      simp only [List.length_append, List.length_cons, List.length_nil] at hlength
      omega

/-- **What the attempts come to.** There is a last one; its outcome and the state it leaves are those of the whole. If
its outcome was worth another attempt, none was left. -/
theorem tries_stop (policy : RetryPolicy) (what : String) (call : Dialogue I (Outcome α))
    (answer : (query : I.Query) → σ → I.Reply query × σ) (spare : Nat) (s : σ) :
    ∃ last, (tries call answer spare s).getLast? = some last ∧
      ((policy.retryWith what call spare).play answer s).value = (call.play answer last).value ∧
      ((policy.retryWith what call spare).play answer s).state = (call.play answer last).state ∧
      (isTransient (call.play answer last).value = true →
        (tries call answer spare s).length = spare + 1) := by
  induction spare generalizing s with
  | zero =>
    obtain ⟨hvalue, hstate, _⟩ := retryWith_settled policy what (Or.inl rfl)
    exact ⟨s, rfl, hvalue, hstate, fun _ => rfl⟩
  | succ spare ih =>
    by_cases htransient : isTransient (call.play answer s).value = true
    · obtain ⟨hvalue, hstate, _⟩ := retryWith_again policy what htransient
      obtain ⟨last, hlast, hvalue', hstate', hspent⟩ := ih (call.play answer s).state
      obtain ⟨later, hlater⟩ := exists_tries call answer spare (call.play answer s).state
      rw [tries_of_transient htransient]
      refine ⟨last, ?_, hvalue.trans hvalue', hstate.trans hstate', ?_⟩
      · rw [hlater] at hlast ⊢
        rw [List.getLast?_cons_cons]
        exact hlast
      · intro h
        rw [List.length_cons, hspent h]
    · obtain ⟨hvalue, hstate, _⟩ := retryWith_settled policy what (Or.inr htransient)
      rw [tries_of_not_transient htransient]
      exact ⟨s, rfl, hvalue, hstate, fun h => absurd h htransient⟩

/-- What is said is what is said in each attempt. -/
theorem said_retryWith (policy : RetryPolicy) (what : String) (call : Dialogue I (Outcome α))
    (answer : (query : I.Query) → σ → I.Reply query × σ) (spare : Nat) (s : σ) :
    (policy.retryWith what call spare).said answer s =
      (tries call answer spare s).flatMap (call.said answer) := by
  induction spare generalizing s with
  | zero =>
    obtain ⟨_, _, hsaid⟩ := retryWith_settled policy what (Or.inl rfl)
    rw [hsaid]
    simp [tries]
  | succ spare ih =>
    by_cases htransient : isTransient (call.play answer s).value = true
    · obtain ⟨_, _, hsaid⟩ := retryWith_again policy what htransient
      rw [hsaid, ih, tries_of_transient htransient, List.flatMap_cons]
    · obtain ⟨_, _, hsaid⟩ := retryWith_settled policy what (Or.inr htransient)
      rw [hsaid, tries_of_not_transient htransient, List.flatMap_singleton]

/-- What every attempt preserves holds in each state in which an attempt finds the other party, counted from `n` on. -/
theorem tries_inv {Inv : Nat → σ → Prop}
    (hstep : ∀ n s, Inv n s → Inv (n + 1) (call.play answer s).state) {n : Nat} (hstart : Inv n s)
    {earlier later : List σ} {between : σ}
    (h : tries call answer spare s = earlier ++ between :: later) :
    Inv (n + earlier.length) between := by
  induction spare generalizing s n earlier with
  | zero =>
    cases earlier with
    | nil =>
      obtain ⟨rfl, _⟩ := List.cons.inj h
      exact hstart
    | cons first earlier =>
      have hnil := (List.cons.inj h).2
      simp at hnil
  | succ spare ih =>
    cases earlier with
    | nil =>
      obtain ⟨rfl, _⟩ := List.cons.inj h
      exact hstart
    | cons first earlier =>
      by_cases htransient : isTransient (call.play answer s).value = true
      · rw [tries_of_transient htransient] at h
        have hrest := ih (hstep n s hstart) (List.cons.inj h).2
        rw [Nat.add_right_comm, Nat.add_assoc] at hrest
        exact hrest
      · rw [tries_of_not_transient htransient] at h
        have hnil := (List.cons.inj h).2
        simp at hnil

end RetryPolicy
end DutyRelay
