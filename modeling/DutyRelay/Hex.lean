/-!
# Hexadecimal text of bytes

Two lower-case digits a byte when written, either letter case when read. `encode` and `decode` are
inverse to each other up to letter case. Text is judged by its UTF-8 bytes: a fault names the first
byte that is no digit and where it stands, after the length has been found even.

## Contents
- `Hex.digit`, `Hex.encode`: writing.
- `Hex.digitValue?`, `Hex.decode`: reading; `Hex.Fault` and its text.
- `Hex.withoutMark`: text with at most one leading `0x` taken off.
- `quotedChar`: a character between single quotes, with escapes for what cannot be shown.
-/

namespace DutyRelay

/-! ## A character in quotes -/

/-- The number in lower-case hexadecimal digits, without leading zeros. -/
def hexNumeral (n : Nat) : String := String.ofList (Nat.toDigits 16 n)

/-- Whether a character below U+0100 has a visible form, the blank included: no control character, no
no-break space, no soft hyphen. -/
def isShownLatin (c : Char) : Bool :=
  let n := c.toNat
  (0x20 ≤ n && n < 0x7f) || (0xa0 < n && n ≠ 0xad)

/-- A character below U+0100 between single quotes. The usual control characters, the single quote
and the backslash have a backslash escape, and what has no visible form is written by its number. -/
def quotedChar (c : Char) : String :=
  let body :=
    if c = '\x00' then "\\0"
    else if c = '\t' then "\\t"
    else if c = '\r' then "\\r"
    else if c = '\n' then "\\n"
    else if c = '\x27' then "\\\x27"
    else if c = '\x5c' then "\\\\"
    else if isShownLatin c then c.toString
    else "\\u\x7b" ++ hexNumeral c.toNat ++ "\x7d"
  "\x27" ++ body ++ "\x27"

namespace Hex

/-! ## Writing -/

/-- The digit of a value below sixteen. -/
def digit (n : Nat) : Char :=
  if n < 10 then Char.ofNat (48 + n) else Char.ofNat (87 + n)

/-- The two digits of a byte, the higher half first. -/
def pair (b : UInt8) : List Char := [digit (b.toNat / 16), digit (b.toNat % 16)]

/-- Two digits for every byte. -/
def encode (bytes : List UInt8) : List Char := bytes.flatMap pair

/-! ## Reading -/

/-- What is wrong with hexadecimal text. -/
inductive Fault where
  /-- The number of bytes is odd. -/
  | oddLength
  /-- The byte at this position, counted from zero, is no digit. -/
  | badByte (byte : UInt8) (position : Nat)
deriving DecidableEq, Repr

/-- The text of a fault; a byte is shown as the character of that number. -/
def Fault.message : Fault → String
  | .oddLength => "Odd number of digits"
  | .badByte byte position =>
    "Invalid character " ++ quotedChar (Char.ofNat byte.toNat) ++ " at position " ++ toString position

/-- The value of a digit in either letter case. -/
def digitValue? (byte : UInt8) : Option Nat :=
  let n := byte.toNat
  if 48 ≤ n ∧ n ≤ 57 then some (n - 48)
  else if 97 ≤ n ∧ n ≤ 102 then some (n - 87)
  else if 65 ≤ n ∧ n ≤ 70 then some (n - 55)
  else none

/-- Reads pairs of digits that start at `position`; a last byte without a partner is an odd length. -/
def decodePairs (position : Nat) : List UInt8 → Except Fault (List UInt8)
  | [] => .ok []
  | [_] => .error .oddLength
  | high :: low :: rest =>
    match digitValue? high, digitValue? low with
    | none, _ => .error (.badByte high position)
    | some _, none => .error (.badByte low (position + 1))
    | some h, some l => (decodePairs (position + 2) rest).map (UInt8.ofNat (16 * h + l) :: ·)

/-- The UTF-8 bytes of a text. -/
def utf8 (text : List Char) : List UInt8 := text.flatMap String.utf8EncodeChar

/-- Reads two digits a byte. An odd number of bytes is found first, then the first byte that is no
digit. -/
def decode (text : List Char) : Except Fault (List UInt8) :=
  let bytes := utf8 text
  if bytes.length % 2 = 1 then .error .oddLength else decodePairs 0 bytes

/-- The text without one leading `0x`, if it has one. -/
def withoutMark : List Char → List Char
  | '0' :: 'x' :: rest => rest
  | text => text

end Hex
end DutyRelay
