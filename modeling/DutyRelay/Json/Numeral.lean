import DutyRelay.Word

/-!
# JSON numerals

A number in JSON text is kept as it is written, split into its parts. What it is worth is asked only
where it matters: an integer numeral has neither a fraction nor an exponent, and the negative zero is not
one of the integers.

## Contents
- `Numeral`, `Numeral.ofText?`: the grammar.
- `Numeral.integer?`, `Numeral.word?`: the value of an integer numeral.
- `Numeral.isFinite`: whether the value stays within double precision.
-/

namespace DutyRelay.Json

/-- A number as it is written. -/
structure Numeral where
  negative : Bool
  /-- The digits before the point: a single zero, or digits that start with another one. -/
  whole : List Char
  /-- The digits after the point, if there is one. -/
  fraction : Option (List Char)
  /-- The digits of the exponent and whether it is negative, if there is one. -/
  exponent : Option (Bool × List Char)
deriving DecidableEq, Inhabited, Repr

namespace Numeral

/-! ## Reading -/

/-- Digits, at least one. -/
def areDigits (text : List Char) : Bool := !text.isEmpty && text.all Char.isDigit

/-- The exponent: digits after an optional sign. -/
def exponentOf? : List Char → Option (Bool × List Char)
  | '+' :: digits => if areDigits digits then some (false, digits) else none
  | '-' :: digits => if areDigits digits then some (true, digits) else none
  | digits => if areDigits digits then some (false, digits) else none

def isExponentMark (c : Char) : Bool := c = 'e' || c = 'E'

/-- Splits text at the first character of a kind, which is left out. -/
def splitAt (isMark : Char → Bool) (text : List Char) : List Char × Option (List Char) :=
  match text.dropWhile fun c => !isMark c with
  | [] => (text, none)
  | _ :: rest => (text.takeWhile fun c => !isMark c, some rest)

/-- Reads a whole text as a numeral. -/
def ofText? (text : List Char) : Option Numeral := do
  let (negative, unsigned) := match text with
    | '-' :: rest => (true, rest)
    | rest => (false, rest)
  let (mantissa, power) := splitAt isExponentMark unsigned
  let (whole, fraction) := splitAt (· = '.') mantissa
  guard (areDigits whole && (whole.length = 1 || whole.head? ≠ some '0'))
  guard (fraction.all areDigits)
  match power with
  | none => return ⟨negative, whole, fraction, none⟩
  | some power => return ⟨negative, whole, fraction, some (← exponentOf? power)⟩

/-! ## Written form -/

/-- The text that the numeral was read from. -/
def text (numeral : Numeral) : List Char :=
  (if numeral.negative then ['-'] else []) ++ numeral.whole ++
    (numeral.fraction.map ('.' :: ·)).getD [] ++
    (numeral.exponent.map fun (negative, digits) =>
      (if negative then ['e', '-'] else ['e']) ++ digits).getD []

/-! ## Values -/

/-- The value of a numeral without fraction and exponent. The negative zero has none. -/
def integer? (numeral : Numeral) : Option Int :=
  if numeral.fraction.isSome || numeral.exponent.isSome then none
  else
    let value := Word.ofDigits numeral.whole
    if numeral.negative then (if value = 0 then none else some (-(value : Int)))
    else some value

/-- The value of an unsigned integer numeral, if it is a word. -/
def word? (numeral : Numeral) : Option Nat :=
  if numeral.negative || numeral.fraction.isSome || numeral.exponent.isSome then none
  else
    let value := Word.ofDigits numeral.whole
    if value ≤ Word.top then some value else none

/-- From here on a value rounds to no double precision number. -/
def firstInfinite : Nat := Nat.pow 2 1024 - Nat.pow 2 970

/-- Whether the value rounds to a double precision number. Digits and exponent decide at once unless the
value is near the end of the range; only then is it worked out. -/
def isFinite (numeral : Numeral) : Bool :=
  let fraction := numeral.fraction.getD []
  let mantissa := Word.ofDigits (numeral.whole ++ fraction)
  let power : Int := match numeral.exponent with
    | none => 0
    | some (negative, digits) =>
      let value : Int := Word.ofDigits digits
      if negative then -value else value
  let shift := power - fraction.length
  let magnitude := shift + (Nat.toDigits 10 mantissa).length
  if mantissa = 0 || magnitude < 309 then true
  else if 310 < magnitude then false
  else if 0 ≤ shift then mantissa * Nat.pow 10 shift.toNat < firstInfinite
  else mantissa < firstInfinite * Nat.pow 10 (-shift).toNat

end Numeral
end DutyRelay.Json
