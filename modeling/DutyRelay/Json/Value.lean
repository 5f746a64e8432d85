import DutyRelay.Hex
import DutyRelay.Json.Document

/-!
# JSON values

A value is a document that has been read in full: strings are valid text, numbers lie within double
precision, brackets do not nest beyond a limit, and the names in an object are distinct and in order. The
writer is compact: no blanks, and in strings only what has to be escaped is escaped.

## Contents
- `Value`, `Value.ofFields`: objects with distinct names in order.
- `Value.ofDocument?`, `Value.ofBytes?`: reading.
- `Value.write`: writing.
-/

namespace DutyRelay.Json

/-- A JSON value. -/
inductive Value where
  | null
  | bool (value : Bool)
  | integer (value : Int)
  /-- A number that is no 64-bit integer, as it is written. -/
  | decimal (numeral : Numeral)
  | string (text : String)
  | array (items : List Value)
  | object (fields : List (String × Value))
deriving Inhabited, Repr

namespace Value

/-! ## Objects -/

/-- Puts a field where its name belongs; a field of the same name gives way. -/
def insertField (name : String) (value : Value) : List (String × Value) → List (String × Value)
  | [] => [(name, value)]
  | field :: rest =>
    if name < field.1 then (name, value) :: field :: rest
    else if name = field.1 then (name, value) :: rest
    else field :: insertField name value rest

/-- The object of some fields, in order of their names; of two fields of one name the later counts. -/
def ofFields (fields : List (String × Value)) : Value :=
  object (fields.foldl (fun sorted field => insertField field.1 field.2 sorted) [])

/-! ## Reading -/

/-- The value of a number: an integer if it fits into 64 bits, signed or unsigned. -/
def ofNumeral? (numeral : Numeral) : Option Value :=
  match numeral.integer? with
  | some value =>
    if -(Word.signBound : Int) ≤ value ∧ value ≤ Word.top then some (integer value)
    else if numeral.isFinite then some (decimal numeral) else none
  | none => if numeral.isFinite then some (decimal numeral) else none

mutual

/-- The value of a document in which brackets nest at most `depth` deep. -/
def ofDocument? (depth : Nat) : Document → Option Value
  | .null => some null
  | .bool value => some (bool value)
  | .number numeral => ofNumeral? numeral
  | .string pieces => (textOf? pieces).map string
  | .array items => if depth = 0 then none else (ofItems? (depth - 1) items).map array
  | .object fields => if depth = 0 then none else (ofMembers? (depth - 1) fields).map ofFields

/-- The values of several documents. -/
def ofItems? (depth : Nat) : List Document → Option (List Value)
  | [] => some []
  | item :: rest => do return (← ofDocument? depth item) :: (← ofItems? depth rest)

/-- The values of several fields with their names. -/
def ofMembers? (depth : Nat) : List (List Piece × Document) → Option (List (String × Value))
  | [] => some []
  | (name, value) :: rest => do
    return (← textOf? name, ← ofDocument? depth value) :: (← ofMembers? depth rest)

end

/-- How deep brackets may nest in a text that is read in full. -/
def depthLimit : Nat := 127

/-- Reads a whole text. -/
def ofBytes? (bytes : List UInt8) : Option Value :=
  (Document.ofBytes? bytes).bind (ofDocument? depthLimit)

/-- A word. -/
def word? : Value → Option Nat
  | integer value => if 0 ≤ value then some value.toNat else none
  | _ => none

/-- A truth value. -/
def bool? : Value → Option Bool
  | bool value => some value
  | _ => none

/-- A text. -/
def text? : Value → Option String
  | string text => some text
  | _ => none

/-! ## Writing -/

/-- A character inside a string. The double quote, the backslash and control characters are escaped. -/
def writeChar (c : Char) : List Char :=
  if c = '"' then ['\x5c', '"']
  else if c = '\x5c' then ['\x5c', '\x5c']
  else if c = '\x08' then ['\x5c', 'b']
  else if c = '\x0c' then ['\x5c', 'f']
  else if c = '\n' then ['\x5c', 'n']
  else if c = '\r' then ['\x5c', 'r']
  else if c = '\t' then ['\x5c', 't']
  else if c.toNat < 0x20 then ['\x5c', 'u', '0', '0', Hex.digit (c.toNat / 16), Hex.digit (c.toNat % 16)]
  else [c]

/-- A string in double quotes. -/
def writeText (text : String) : List Char := '"' :: text.toList.flatMap writeChar ++ ['"']

/-- An integer in decimal digits, with a minus sign if it is negative. -/
def writeInteger : Int → List Char
  | .ofNat n => Nat.toDigits 10 n
  | .negSucc n => '-' :: Nat.toDigits 10 (n + 1)

mutual

/-- The compact text of a value. -/
def write : Value → List Char
  | null => ['n', 'u', 'l', 'l']
  | bool true => ['t', 'r', 'u', 'e']
  | bool false => ['f', 'a', 'l', 's', 'e']
  | integer value => writeInteger value
  | decimal numeral => numeral.text
  | string text => writeText text
  | array [] => ['[', ']']
  | array (item :: rest) => '[' :: write item ++ writeItems rest
  | object [] => ['\x7b', '\x7d']
  | object ((name, value) :: rest) =>
    '\x7b' :: writeText name ++ ':' :: write value ++ writeFields rest

/-- The items of an array after the first one, and its end. -/
def writeItems : List Value → List Char
  | [] => [']']
  | item :: rest => ',' :: write item ++ writeItems rest

/-- The fields of an object after the first one, and its end. -/
def writeFields : List (String × Value) → List Char
  | [] => ['\x7d']
  | (name, value) :: rest => ',' :: writeText name ++ ':' :: write value ++ writeFields rest

end

/-- The compact text of a value. -/
def text (value : Value) : String := String.ofList value.write

end Value
end DutyRelay.Json
