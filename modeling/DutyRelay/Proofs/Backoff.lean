import DutyRelay.Retry
import Mathlib.Algebra.Order.Ring.Nat

/-!
# The pauses between attempts

By the rule, the pause after a failed attempt is a multiple of the base delay, at most one minute: with linear
backoff the base delay times the attempt, with exponential backoff the base delay doubled once for every attempt
before this one. Here the pauses are counted in nanoseconds and compared with that rule. No pause is shorter than one
before it. But a doubling that does not fit 32 bits is replaced by the largest 32-bit number, and with a base delay
of a few nanoseconds that is short of a minute: from the thirty-third attempt on such a pause no longer grows.

## Contents
- `delayFor_nanos`: a pause in nanoseconds; `delayFor_le`, `delayFor_mono`: pauses are bounded and never shrink.
- `Backoff.multiple`, `RetryPolicy.ruled`: the pauses by the rule.
- `delayFor_eq_ruled`, `delayFor_lt_ruled`: how the two compare.
- `delayFor_eq_ruled_iff`: when they are the same; `delayFor_stands`: a pause that stays behind.
-/

namespace DutyRelay

/-- The multiple of the base delay that is due after an attempt, counted from one. -/
def Backoff.multiple : Backoff → (attempt : Nat) → Nat
  | .linear, attempt => attempt
  | .exponential, attempt => 2 ^ (attempt - 1)

namespace RetryPolicy

variable {policy : RetryPolicy} {backoff : Backoff} {attempt later : Nat}

/-- The pause after an attempt by the rule: the multiple of the base delay, or one minute where that is longer. -/
def ruled (policy : RetryPolicy) (attempt : Nat) : Span :=
  ⟨min (policy.delay.nanos * policy.backoff.multiple attempt) longestDelay.nanos⟩

/-! ## Pauses in nanoseconds -/

theorem longestDelay_le_longest : longestDelay.nanos ≤ Span.longest.nanos := by decide

/-- The longest pause is far below the longest span, so it does not matter that multiples stop at the latter. -/
theorem delayFor_nanos (policy : RetryPolicy) (attempt : Nat) :
    (policy.delayFor attempt).nanos =
      min (policy.delay.nanos * factor policy.backoff attempt) longestDelay.nanos := by
  unfold delayFor Span.times Span.cap
  rw [Nat.min_assoc, Nat.min_eq_right longestDelay_le_longest]

theorem delayFor_le (policy : RetryPolicy) (attempt : Nat) :
    (policy.delayFor attempt).nanos ≤ longestDelay.nanos := by
  rw [delayFor_nanos]
  exact Nat.min_le_right _ _

/-! ## The factors -/

theorem factor_linear (h : 1 ≤ attempt) : factor .linear attempt = attempt := Nat.max_eq_left h

theorem factor_exponential_of_le (h : attempt ≤ 32) : factor .exponential attempt = 2 ^ (attempt - 1) :=
  if_pos (by omega)

theorem factor_exponential_of_lt (h : 32 < attempt) : factor .exponential attempt = Word.top32 :=
  if_neg (by omega)

/-- A power of two that fits 32 bits is at most the number that stands for those that do not. -/
theorem factor_exponential_le (attempt : Nat) : factor .exponential attempt ≤ Word.top32 := by
  by_cases h : attempt ≤ 32
  · rw [factor_exponential_of_le h]
    calc 2 ^ (attempt - 1) ≤ 2 ^ 31 := Nat.pow_le_pow_right (by decide) (by omega)
      _ ≤ Word.top32 := by decide
  · exact Nat.le_of_eq (factor_exponential_of_lt (Nat.lt_of_not_le h))

theorem factor_mono (backoff : Backoff) (h : attempt ≤ later) : factor backoff attempt ≤ factor backoff later := by
  cases backoff with
  | linear =>
    show max attempt 1 ≤ max later 1
    omega
  | exponential =>
    by_cases hlater : later ≤ 32
    · rw [factor_exponential_of_le hlater, factor_exponential_of_le (Nat.le_trans h hlater)]
      exact Nat.pow_le_pow_right (by decide) (by omega)
    · rw [factor_exponential_of_lt (Nat.lt_of_not_le hlater)]
      exact factor_exponential_le attempt

/-- **No pause is shorter than one before it.** -/
theorem delayFor_mono (policy : RetryPolicy) (h : attempt ≤ later) :
    (policy.delayFor attempt).nanos ≤ (policy.delayFor later).nanos := by
  have hmultiple : policy.delay.nanos * factor policy.backoff attempt ≤
      policy.delay.nanos * factor policy.backoff later := Nat.mul_le_mul_left _ (factor_mono _ h)
  rw [delayFor_nanos, delayFor_nanos]
  omega

/-! ## Pauses by the rule -/

/-- A pause follows the rule when its factor does. -/
theorem delayFor_eq_ruled_of_factor (h : factor policy.backoff attempt = policy.backoff.multiple attempt) :
    policy.delayFor attempt = policy.ruled attempt := by
  ext
  rw [delayFor_nanos, h]
  rfl

/-- A doubling beyond 32 bits is more than the number that stands for it. -/
theorem top32_lt_multiple (h : 32 < attempt) : Word.top32 < Backoff.exponential.multiple attempt := by
  calc Word.top32 < 2 ^ 32 := by decide
    _ ≤ 2 ^ (attempt - 1) := Nat.pow_le_pow_right (by decide) (by omega)

/-- It takes fourteen nanoseconds for the largest 32-bit multiple to be a minute. -/
theorem longestDelay_le_iff {nanos : Nat} : longestDelay.nanos ≤ nanos * Word.top32 ↔ 14 ≤ nanos := by
  have hminute : longestDelay.nanos = 60000000000 := rfl
  have htop : Word.top32 = 4294967295 := rfl
  rw [hminute, htop]
  omega

/-- Where both multiples are a minute or more, both are cut to a minute. -/
theorem delayFor_eq_ruled_of_long (hbackoff : policy.backoff = .exponential) (h : 32 < attempt)
    (hlong : 14 ≤ policy.delay.nanos) : policy.delayFor attempt = policy.ruled attempt := by
  have hreached := longestDelay_le_iff.mpr hlong
  have hbeyond : policy.delay.nanos * Word.top32 ≤ policy.delay.nanos * Backoff.exponential.multiple attempt :=
    Nat.mul_le_mul_left _ (Nat.le_of_lt (top32_lt_multiple h))
  ext
  rw [delayFor_nanos, ruled, hbackoff, factor_exponential_of_lt h, Nat.min_eq_right hreached,
    Nat.min_eq_right (Nat.le_trans hreached hbeyond)]

/-- A base delay of fewer nanoseconds than that, multiplied by the largest 32-bit number, stays below a minute, and
below what the rule asks for. -/
theorem delayFor_lt_ruled_of_short (hbackoff : policy.backoff = .exponential) (h : 32 < attempt)
    (hpos : 0 < policy.delay.nanos) (hshort : policy.delay.nanos < 14) :
    (policy.delayFor attempt).nanos = policy.delay.nanos * Word.top32 ∧
      (policy.delayFor attempt).nanos < (policy.ruled attempt).nanos := by
  have hbelow : policy.delay.nanos * Word.top32 < longestDelay.nanos := by
    rw [← Nat.not_le, longestDelay_le_iff]
    omega
  have hdelay : (policy.delayFor attempt).nanos = policy.delay.nanos * Word.top32 := by
    rw [delayFor_nanos, hbackoff, factor_exponential_of_lt h]
    exact Nat.min_eq_left (Nat.le_of_lt hbelow)
  refine ⟨hdelay, ?_⟩
  rw [hdelay, ruled, hbackoff]
  exact Nat.lt_min.mpr ⟨Nat.mul_lt_mul_of_pos_left (top32_lt_multiple h) hpos, hbelow⟩

/-- The pauses for which the largest 32-bit number makes no difference. -/
theorem delayFor_eq_ruled (h : 1 ≤ attempt)
    (hcases : policy.backoff = .linear ∨ attempt ≤ 32 ∨ policy.delay = Span.zero ∨ 14 ≤ policy.delay.nanos) :
    policy.delayFor attempt = policy.ruled attempt := by
  cases hbackoff : policy.backoff with
  | linear =>
    apply delayFor_eq_ruled_of_factor
    rw [hbackoff]
    exact factor_linear h
  | exponential =>
    by_cases hfits : attempt ≤ 32
    · apply delayFor_eq_ruled_of_factor
      rw [hbackoff]
      exact factor_exponential_of_le hfits
    · rcases hcases with hlinear | hle | hzero | hlong
      · rw [hbackoff] at hlinear
        cases hlinear
      · exact absurd hle hfits
      · ext
        simp [delayFor_nanos, ruled, hzero, Span.zero]
      · exact delayFor_eq_ruled_of_long hbackoff (Nat.lt_of_not_le hfits) hlong

/-- The other pauses stay behind. -/
theorem delayFor_lt_ruled
    (hcases : ¬ (policy.backoff = .linear ∨ attempt ≤ 32 ∨ policy.delay = Span.zero ∨ 14 ≤ policy.delay.nanos)) :
    (policy.delayFor attempt).nanos = policy.delay.nanos * Word.top32 ∧
      (policy.delayFor attempt).nanos < (policy.ruled attempt).nanos := by
  simp only [not_or] at hcases
  obtain ⟨hlinear, hfits, hzero, hlong⟩ := hcases
  have hexponential : policy.backoff = .exponential := by
    cases hbackoff : policy.backoff with
    | linear => exact absurd hbackoff hlinear
    | exponential => rfl
  have hpos : 0 < policy.delay.nanos := Nat.pos_of_ne_zero fun hnone => hzero (Span.ext hnone)
  exact delayFor_lt_ruled_of_short hexponential (Nat.lt_of_not_le hfits) hpos (Nat.lt_of_not_le hlong)

/-- **When pauses follow the rule.** They do with linear backoff, up to the thirty-second attempt, and for a base delay
of zero or of at least fourteen nanoseconds. Otherwise the base delay is multiplied by the largest 32-bit number, and
the pause falls short of the rule. -/
theorem delayFor_eq_ruled_iff (policy : RetryPolicy) (attempt : Nat) (h : 1 ≤ attempt) :
    (policy.delayFor attempt = policy.ruled attempt ↔
      policy.backoff = .linear ∨ attempt ≤ 32 ∨ policy.delay = Span.zero ∨ 14 ≤ policy.delay.nanos) ∧
    (policy.delayFor attempt ≠ policy.ruled attempt →
      (policy.delayFor attempt).nanos = policy.delay.nanos * Word.top32 ∧
        (policy.delayFor attempt).nanos < (policy.ruled attempt).nanos) := by
  constructor
  · constructor
    · intro heq
      apply Decidable.byContradiction
      intro hcases
      have hlt := (delayFor_lt_ruled hcases).2
      rw [heq] at hlt
      exact Nat.lt_irrefl _ hlt
    · exact delayFor_eq_ruled h
  · intro hne
    apply delayFor_lt_ruled
    intro hcases
    exact hne (delayFor_eq_ruled h hcases)

/-- With fourteen nanoseconds the pause after the thirty-third attempt is a minute, as it should be; with thirteen it
falls short of the rule. -/
theorem delayFor_around_fourteen :
    1 ≤ 33 ∧ delayFor ⟨40, ⟨14⟩, .exponential⟩ 33 = ruled ⟨40, ⟨14⟩, .exponential⟩ 33 ∧
      ruled ⟨40, ⟨14⟩, .exponential⟩ 33 = Span.ofSeconds 60 ∧
      delayFor ⟨40, ⟨13⟩, .exponential⟩ 33 ≠ ruled ⟨40, ⟨13⟩, .exponential⟩ 33 := by
  refine ⟨by decide, ?_, by decide, ?_⟩
  · exact (delayFor_eq_ruled_iff ⟨40, ⟨14⟩, .exponential⟩ 33 (by decide)).1.mpr (by decide)
  · intro heq
    have hcases := (delayFor_eq_ruled_iff ⟨40, ⟨13⟩, .exponential⟩ 33 (by decide)).1.mp heq
    revert hcases
    decide

/-- **A pause that stays behind the rule.** Doubled with every attempt, one nanosecond is a minute after forty of them;
but the pause stands still at little more than four seconds. -/
theorem delayFor_stands :
    delayFor ⟨50, ⟨1⟩, .exponential⟩ 40 = ⟨4294967295⟩ ∧
      ruled ⟨50, ⟨1⟩, .exponential⟩ 40 = Span.ofSeconds 60 ∧
      ¬ ∀ policy attempt, 1 ≤ attempt → delayFor policy attempt = ruled policy attempt := by
  refine ⟨by decide, by decide, fun hall => ?_⟩
  have heq := hall ⟨50, ⟨1⟩, .exponential⟩ 40 (by decide)
  revert heq
  decide

end RetryPolicy
end DutyRelay
