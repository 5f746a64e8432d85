import DutyRelay.Hex

/-!
# Public keys of validators

A key is a row of bytes of any length, the empty one included. Its written form is `0x` and lower-case
hexadecimal; it is read with or without the `0x` and in either letter case.

## Contents
- `PublicKey`, `PublicKey.ofText`, `PublicKey.text`.
- `PublicKey.short`: the first bytes only, for log lines.
-/

namespace DutyRelay

/-- The public key of a validator. -/
@[ext]
structure PublicKey where
  bytes : List UInt8
deriving DecidableEq, Inhabited, Repr

namespace PublicKey

/-- Digits kept by the short form. -/
def shortDigits : Nat := 8

def isEmpty (key : PublicKey) : Bool := key.bytes.isEmpty

/-- The written form: `0x` and two lower-case digits a byte. -/
def text (key : PublicKey) : String := "0x" ++ String.ofList (Hex.encode key.bytes)

/-- Reads a key, with or without the `0x` in front. -/
def ofText (text : String) : Except Hex.Fault PublicKey :=
  (Hex.decode (Hex.withoutMark text.toList)).map PublicKey.mk

/-- The written form cut off, with three points, after the first four bytes. -/
def short (key : PublicKey) : String :=
  let digits := Hex.encode key.bytes
  if digits.length ≤ shortDigits then "0x" ++ String.ofList digits
  else "0x" ++ String.ofList (digits.take shortDigits) ++ "..."

end PublicKey
end DutyRelay
