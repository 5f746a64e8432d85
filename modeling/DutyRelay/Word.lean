/-!
# Machine words

Slots, epochs, validator indices and Unix times travel between the nodes as 64-bit unsigned numbers.
Inside the library they are natural numbers, and this file holds what the word size means for them:
the largest word, arithmetic that stops there instead of wrapping, and the decimal form in which a
word is accepted from outside.

## Contents
- `Word.top`, `Word.top32`, `Word.signBound`, `Word.clamp`, `Word.satAdd`, `Word.satMul`: saturation.
- `Word.clamp_add_clamp`, `Word.clamp_mul_clamp`: clamping early and clamping at the end.
- `Word.ofText?`: an optional plus sign and decimal digits, refused above a bound.
-/

namespace DutyRelay.Word

/-- The largest 64-bit unsigned number. -/
def top : Nat := 0xffffffffffffffff

/-- The largest 32-bit unsigned number. -/
def top32 : Nat := 0xffffffff

/-- Signed numbers of 64 bits reach from minus this number up to the one before it. -/
def signBound : Nat := 0x8000000000000000

/-! ## Saturation -/

/-- The word nearest to `n`. -/
def clamp (n : Nat) : Nat := min n top

/-- Addition that stops at the largest word. -/
def satAdd (a b : Nat) : Nat := clamp (a + b)

/-- Multiplication that stops at the largest word. -/
def satMul (a b : Nat) : Nat := clamp (a * b)

theorem clamp_le_top (n : Nat) : clamp n ≤ top := Nat.min_le_right _ _

theorem clamp_eq_self {n : Nat} (h : n ≤ top) : clamp n = n := Nat.min_eq_left h

theorem clamp_eq_top {n : Nat} (h : top ≤ n) : clamp n = top := Nat.min_eq_right h

/-- Below the largest word nothing was clamped. -/
theorem clamp_lt_clamp {m n : Nat} (h : m < n) (hn : clamp n < top) : clamp m < clamp n := by
  unfold clamp at hn ⊢
  omega

/-- It makes no difference whether a term is clamped before the sum is, -/
theorem clamp_add_clamp (a b : Nat) : clamp (a + clamp b) = clamp (a + b) := by
  unfold clamp
  omega

/-- or a factor before the product is: the other factor is zero, or the product is beyond all words as well. -/
theorem clamp_mul_clamp (a b : Nat) : clamp (a * clamp b) = clamp (a * b) := by
  by_cases hb : b ≤ top
  · rw [clamp_eq_self hb]
  · have htop : top ≤ b := Nat.le_of_not_le hb
    rw [clamp_eq_top htop]
    cases a with
    | zero => simp
    | succ a =>
      have hclamped : top ≤ (a + 1) * top := Nat.le_mul_of_pos_left top (Nat.succ_pos a)
      have hexact : top ≤ (a + 1) * b := Nat.le_trans htop (Nat.le_mul_of_pos_left b (Nat.succ_pos a))
      rw [clamp_eq_top hclamped, clamp_eq_top hexact]

/-! ## Decimal text -/

/-- The number that a row of decimal digits stands for. -/
def ofDigits (digits : List Char) : Nat :=
  digits.foldl (fun n c => 10 * n + (c.toNat - 48)) 0

/-- Reads decimal text: one optional plus sign, then at least one digit, with leading zeros allowed
and a value of at most `bound`. Blanks, a minus sign and anything else are refused. -/
def ofText? (bound : Nat) (text : List Char) : Option Nat :=
  let digits := match text with
    | '+' :: rest => rest
    | rest => rest
  if digits ≠ [] ∧ digits.all Char.isDigit then
    let value := ofDigits digits
    if value ≤ bound then some value else none
  else none

end DutyRelay.Word
