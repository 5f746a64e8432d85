import DutyRelay.Span

/-!
# Timers

Work that waits depends on what it waits with. A timer notices the time at whole multiples of its
grain only, so a pause lasts until the next multiple. Beats at a fixed period are due one period
apart; a beat that comes too late moves the ones behind it, a beat that is late within the tolerance
does not.

## Contents
- `Timer`, `Timer.exact`, `Timer.standard`.
- `Timer.notice`, `Timer.taken`: what waiting costs.
- `Timer.nextDue`: when the next beat is due.
-/

namespace DutyRelay

/-- How closely time is kept, in nanoseconds. -/
structure Timer where
  /-- The distance between two moments that are told apart. -/
  grain : Nat
  grain_pos : 0 < grain
  /-- How late a beat may be and still count as on time. -/
  tolerance : Nat

namespace Timer

/-- A timer that is never late and forgives nothing. -/
def exact : Timer := ⟨1, by decide, 0⟩

/-- Whole milliseconds, and five of them forgiven. -/
def standard : Timer := ⟨1000000, by decide, 5000000⟩

/-! ## Waiting -/

/-- The first moment, from a time on, that the timer notices. -/
def notice (timer : Timer) (time : Nat) : Nat :=
  (time + (timer.grain - 1)) / timer.grain * timer.grain

theorem le_notice (timer : Timer) (time : Nat) : time ≤ timer.notice time := by
  have hpos := timer.grain_pos
  have hdiv := Nat.div_add_mod' (time + (timer.grain - 1)) timer.grain
  have hmod := Nat.mod_lt (time + (timer.grain - 1)) hpos
  unfold notice
  omega

theorem notice_lt (timer : Timer) (time : Nat) : timer.notice time < time + timer.grain := by
  have hpos := timer.grain_pos
  have hle := Nat.div_mul_le_self (time + (timer.grain - 1)) timer.grain
  unfold notice
  omega

theorem notice_exact (time : Nat) : exact.notice time = time := by simp [notice, exact]

/-- The time that a pause takes when it begins at a moment that the timer notices. -/
def taken (timer : Timer) (span : Span) : Span := ⟨timer.notice span.nanos⟩

/-! ## Beats -/

/-- When the beat after one is due that was itself due at a time and came at another: one period
after it was due, but if it came too late, one period after it came. -/
def nextDue (timer : Timer) (period due came : Nat) : Nat :=
  (if due + timer.tolerance < came then came else due) + period

theorem lt_nextDue (timer : Timer) {period due came : Nat} (h : 0 < period) :
    due < timer.nextDue period due came := by
  unfold nextDue
  split <;> omega

theorem nextDue_exact {period due came : Nat} (h : due ≤ came) :
    exact.nextDue period due came = came + period := by
  rcases Nat.lt_or_eq_of_le h with hlt | heq
  · simp [nextDue, exact, hlt]
  · simp [nextDue, exact, heq]

end Timer
end DutyRelay
