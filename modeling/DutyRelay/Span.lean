import DutyRelay.Word

/-!
# Lengths of time

A span is a whole number of nanoseconds, at most what 64 bits of seconds and a fraction below one
second can hold. Multiplication stops at that longest span. `Span.text` is the one written form, used
in log lines and error texts: the largest unit that leaves a whole part, then the fraction without
trailing zeros.

## Contents
- `Span`, `Span.ofSeconds`, `Span.ofParts`, `Span.seconds`, `Span.subseconds`.
- `Span.longest`, `Span.times`: saturating multiples.
- `Span.text`: `1.5s`, `250ms`, `1.001µs`, `0ns`.
-/

namespace DutyRelay

/-- A length of time, counted in nanoseconds. -/
@[ext]
structure Span where
  nanos : Nat
deriving DecidableEq, Inhabited, Repr

namespace Span

/-- Nanoseconds in a second. -/
def perSecond : Nat := 1000000000

def zero : Span := ⟨0⟩

/-- A whole number of seconds. -/
def ofSeconds (seconds : Nat) : Span := ⟨seconds * perSecond⟩

/-- Seconds and further nanoseconds. -/
def ofParts (seconds nanos : Nat) : Span := ⟨seconds * perSecond + nanos⟩

/-- The whole seconds of a span. -/
def seconds (d : Span) : Nat := d.nanos / perSecond

/-- The nanoseconds of a span beyond its whole seconds. -/
def subseconds (d : Span) : Nat := d.nanos % perSecond

/-- The whole milliseconds of a span. -/
def millis (d : Span) : Nat := d.nanos / 1000000

/-- The longest span: the largest word in seconds, and all but one nanosecond of another. -/
def longest : Span := ofParts Word.top (perSecond - 1)

/-- A multiple of a span, stopping at the longest one. -/
def times (d : Span) (n : Nat) : Span := ⟨min (d.nanos * n) longest.nanos⟩

/-- The shorter of two spans. -/
def cap (d limit : Span) : Span := ⟨min d.nanos limit.nanos⟩

/-- One span after another. -/
def plus (d e : Span) : Span := ⟨d.nanos + e.nanos⟩

theorem ofParts_seconds_subseconds (d : Span) : ofParts d.seconds d.subseconds = d := by
  simp [ofParts, seconds, subseconds, Nat.div_add_mod']

theorem seconds_ofSeconds (n : Nat) : (ofSeconds n).seconds = n := by
  simp [ofSeconds, seconds, perSecond]

/-! ## Written form -/

/-- A fraction of `places` decimal places with the point, without trailing zeros; nothing when the
fraction is zero. -/
def fraction (places value : Nat) : String :=
  if value = 0 then ""
  else
    let digits := Nat.toDigits 10 value
    let padded := List.replicate (places - digits.length) '0' ++ digits
    "." ++ String.ofList (padded.reverse.dropWhile (· = '0')).reverse

/-- A whole number of units of `size` nanoseconds each (`size` having `places` decimal zeros) with
the rest as a decimal fraction. -/
def inUnit (d : Span) (size places : Nat) (unit : String) : String :=
  toString (d.nanos / size) ++ fraction places (d.nanos % size) ++ unit

/-- The written form: seconds from one second on, else milliseconds from one millisecond on, else
microseconds from one microsecond on, else nanoseconds. -/
def text (d : Span) : String :=
  if 1000000000 ≤ d.nanos then d.inUnit 1000000000 9 "s"
  else if 1000000 ≤ d.nanos then d.inUnit 1000000 6 "ms"
  else if 1000 ≤ d.nanos then d.inUnit 1000 3 "µs"
  else d.inUnit 1 0 "ns"

end Span
end DutyRelay
