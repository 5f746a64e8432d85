import DutyRelay.Text
import DutyRelay.Word

/-!
# Letters beyond ASCII in ASCII

A label with letters beyond ASCII is written as its ASCII letters, a hyphen, and a row of digits.
The digits make numbers, one for each other letter in the order of their code points: how many steps
to go through all places and all code points before it is put in. Every number ends with its first
digit below a threshold, and the thresholds adapt to the numbers before.

## Contents
- `Punycode.threshold`, `Punycode.adapt`.
- `Punycode.decode?`, `Punycode.encode`.
-/

namespace DutyRelay.Url.Punycode

/-! ## Thresholds -/

/-- The number of digits. -/
def base : Nat := 36

/-- The place of the first digit of a number; the places of the others are one `base` apart. -/
def firstPlace : Nat := base

/-- The bias before the first number. -/
def firstBias : Nat := 72

/-- The first code point that is no ASCII letter. -/
def firstCode : Nat := 0x80

/-- A digit below the threshold is the last one of its number. -/
def threshold (bias place : Nat) : Nat := max 1 (min 26 (place - bias))

theorem one_le_threshold (bias place : Nat) : 1 ≤ threshold bias place := Nat.le_max_left _ _

theorem threshold_lt_base (bias place : Nat) : threshold bias place < base := by
  simp only [threshold, base]
  omega

/-- Divides by 35 until the number is at most 455, and counts the divisions in places. -/
def reduce (delta place : Nat) : Nat × Nat :=
  if 455 < delta then reduce (delta / 35) (place + base) else (delta, place)
termination_by delta
decreasing_by exact Nat.div_lt_self (by omega) (by omega)

/-- The bias behind a number, when there are now `count` letters. The first number is damped more. -/
def adapt (delta count : Nat) (isFirst : Bool) : Nat :=
  let damped := if isFirst then delta / 700 else delta / 2
  let (delta, place) := reduce (damped + damped / count) 0
  place + base * delta / (delta + 38)

/-! ## Digits -/

/-- The value of a digit: letters come before the ten digits. -/
def digitValue? (c : Char) : Option Nat :=
  (Text.digitValue? c).map fun d => if d < 10 then d + 26 else d - 10

/-- The digit of a value below 36. -/
def digit (value : Nat) : Char :=
  if value < 26 then Char.ofNat (97 + value) else Char.ofNat (22 + value)

/-! ## Decoding -/

/-- What has been read: the letters, the code point and the bias, and the number that is being read
with the place and the weight of its next digit. Numbers go on from where the one before them ended.
-/
structure Decoding where
  letters : List Char
  code : Nat
  bias : Nat
  start : Nat
  number : Nat
  place : Nat
  weight : Nat
deriving DecidableEq, Repr

namespace Decoding

/-- The character of a code point, if there is one. -/
def char? (code : Nat) : Option Char := if code.isValidChar then some (Char.ofNat code) else none

/-- Puts in the letter that a number stands for, and goes on behind it. -/
def insert? (state : Decoding) (number : Nat) : Option Decoding := do
  let count := state.letters.length + 1
  let code := state.code + number / count
  let letter ← char? code
  let next := number % count + 1
  return {
    letters := state.letters.take (number % count) ++ letter :: state.letters.drop (number % count)
    code
    bias := adapt (number - state.start) count (state.start = 0)
    start := next
    number := next
    place := firstPlace
    weight := 1 }

/-- Reads a digit. Numbers and weights beyond 32 bits are refused. -/
def step? (state : Decoding) (c : Char) : Option Decoding := do
  let value ← digitValue? c
  let number := state.number + value * state.weight
  guard (number ≤ Word.top32)
  let limit := threshold state.bias state.place
  if value < limit then state.insert? number
  else
    let weight := state.weight * (base - limit)
    guard (weight ≤ Word.top32)
    return { state with number, place := state.place + base, weight }

end Decoding

/-- Cuts text at its last hyphen; the hyphen is dropped if something stands in front of it. -/
def splitHyphen (text : List Char) : List Char × List Char :=
  let digits := (text.reverse.takeWhile (· ≠ '-')).reverse
  let letters := (text.take (text.length - digits.length)).dropLast
  if letters = [] then ([], text) else (letters, digits)

/-- The letters that a text stands for; none if it ends inside a number or a number makes no sense. -/
def decode? (text : List Char) : Option (List Char) := do
  let (letters, digits) := splitHyphen text
  let start : Decoding := ⟨letters, firstCode, firstBias, 0, 0, firstPlace, 1⟩
  let state ← digits.foldlM Decoding.step? start
  guard (state.place = firstPlace)
  return state.letters

/-! ## Encoding -/

/-- The digits of a number, from a place on. -/
def digits (bias place number : Nat) : List Char :=
  let limit := threshold bias place
  if number < limit then [digit number]
  else
    digit (limit + (number - limit) % (base - limit)) ::
      digits bias (place + base) ((number - limit) / (base - limit))
termination_by number
decreasing_by
  have hone := one_le_threshold bias place
  have hle := Nat.div_le_self (number - threshold bias place) (base - threshold bias place)
  omega

/-- What has been written: the digits, the steps since the last letter, the bias, the number of
letters that are in, and the code point that comes next. -/
structure Encoding where
  written : List Char
  delta : Nat
  bias : Nat
  count : Nat
  code : Nat
deriving DecidableEq, Repr

namespace Encoding

/-- Goes past a letter of the text, or puts it in if its turn has come. `plain` letters were in
before the first number. -/
def visit (plain code : Nat) (state : Encoding) (c : Char) : Encoding :=
  if c.toNat < code then { state with delta := state.delta + 1 }
  else if c.toNat = code then
    { state with
      written := state.written ++ digits state.bias firstPlace state.delta
      delta := 0
      bias := adapt state.delta (state.count + 1) (state.count = plain)
      count := state.count + 1 }
  else state

/-- Puts in all letters of one code point. -/
def round (text : List Char) (plain : Nat) (state : Encoding) (code : Nat) : Encoding :=
  let begun := { state with delta := state.delta + (code - state.code) * (state.count + 1) }
  let ended := text.foldl (visit plain code) begun
  { ended with delta := ended.delta + 1, code := code + 1 }

end Encoding

/-- The ASCII letters of a text. -/
def basic (text : List Char) : List Char := text.filter (·.toNat < firstCode)

/-- The code points of the other letters, in rising order, each once. -/
def codes (text : List Char) : List Nat :=
  ((text.map Char.toNat).filter (firstCode ≤ ·)).mergeSort.eraseDups

/-- The written form of a text. -/
def encode (text : List Char) : List Char :=
  let letters := basic text
  let start : Encoding := ⟨[], 0, firstBias, letters.length, firstCode⟩
  let ended := (codes text).foldl (Encoding.round text letters.length) start
  (if letters = [] then [] else letters ++ ['-']) ++ ended.written

end DutyRelay.Url.Punycode
