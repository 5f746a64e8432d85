import DutyRelay.Hex
import DutyRelay.Text

/-!
# Percent signs in addresses

What may not stand in a part of an address as it is stands there as its UTF-8 bytes, each written as a
percent sign and two digits. Which characters these are depends on the part.

## Contents
- `Percent.inPath`, `Percent.inQuery`, `Percent.inFragment`, `Percent.inCredentials`.
- `Percent.encode`, `Percent.decode`, `Percent.decodeText?`.
-/

namespace DutyRelay.Url.Percent

/-! ## What is encoded -/

/-- The blank, and everything that is not printable ASCII. -/
def isUnprintable (c : Char) : Bool := c.toNat ≤ 0x20 || 0x7f ≤ c.toNat

/-- Whether a character is one of a text. -/
def isOneOf (text : String) (c : Char) : Bool := text.toList.contains c

/-- What is encoded in a fragment. -/
def inFragment (c : Char) : Bool := isUnprintable c || isOneOf "\"<>\x60" c

/-- What is encoded in a query. -/
def inQuery (c : Char) : Bool := isUnprintable c || isOneOf "\"#<>\x27" c

/-- What is encoded in a path. -/
def inPath (c : Char) : Bool := isUnprintable c || isOneOf "\"#<>?\x60\x7b\x7d" c

/-- What is encoded in the credentials in front of a host. -/
def inCredentials (c : Char) : Bool := inPath c || isOneOf "/:;=@[\\]^|" c

/-! ## Encoding and decoding -/

/-- A byte as a percent sign and two upper-case digits. -/
def encodeByte (byte : UInt8) : List Char := '%' :: (Hex.pair byte).map Char.toUpper

/-- Encodes every character of a kind. -/
def encode (isEncoded : Char → Bool) (text : List Char) : List Char :=
  text.flatMap fun c => if isEncoded c then (String.utf8EncodeChar c).flatMap encodeByte else [c]

/-- The bytes of a text, where a percent sign with two digits stands for one byte; other percent
signs stand for themselves. -/
def decode : List UInt8 → List UInt8
  | 0x25 :: high :: low :: rest =>
    match Hex.digitValue? high, Hex.digitValue? low with
    | some h, some l => UInt8.ofNat (16 * h + l) :: decode rest
    | _, _ => 0x25 :: decode (high :: low :: rest)
  | byte :: rest => byte :: decode rest
  | [] => []

/-- Decodes a text; none if the bytes are no UTF-8. -/
def decodeText? (text : List Char) : Option (List Char) :=
  (String.fromUTF8? ⟨(decode (text.flatMap String.utf8EncodeChar)).toArray⟩).map String.toList

end DutyRelay.Url.Percent
