import DutyRelay.Json.Token

/-!
# JSON documents

A document is JSON text as a tree, with strings and numbers as they were written. It is read with the open
brackets held in a list, so there is no limit to how deep brackets may nest. Records are taken out of it
by the names of their fields; a record may also be written as an array of its fields in order.

## Contents
- `Document`, `Document.ofBytes?`.
- `Document.text?`, `Document.word?`, `Document.integer?`, `Document.list?`: leaves and lists.
- `Document.record?`: the fields of a record.
-/

namespace DutyRelay.Json

/-- JSON text as a tree. -/
inductive Document where
  | null
  | bool (value : Bool)
  | number (numeral : Numeral)
  | string (pieces : List Piece)
  | array (items : List Document)
  | object (fields : List (List Piece × Document))
deriving Inhabited, Repr

namespace Document

/-! ## Reading -/

/-- An open bracket with what has been read inside it, in reverse. -/
inductive Frame where
  | array (items : List Document)
  /-- The name is that of the field whose value is being read. -/
  | object (fields : List (List Piece × Document)) (name : List Piece)

/-- What may come next. -/
inductive Place where
  /-- A value. -/
  | value
  /-- The first item of an array, or its end. -/
  | firstItem (outer : List Frame)
  /-- The name of the first field of an object, or its end. -/
  | firstName (outer : List Frame)
  /-- The name of a further field. -/
  | name (fields : List (List Piece × Document)) (outer : List Frame)
  /-- The colon after a name. -/
  | colon (fields : List (List Piece × Document)) (name : List Piece) (outer : List Frame)
  /-- A comma or the end of a bracket, after the value given. -/
  | after (value : Document)

/-- The open brackets around the present place, the innermost first, and what may come. -/
structure Reader where
  frames : List Frame
  place : Place

namespace Reader

/-- A token where a value is wanted. -/
def readValue (frames : List Frame) : Token → Option Reader
  | .null => some ⟨frames, .after .null⟩
  | .bool value => some ⟨frames, .after (.bool value)⟩
  | .number numeral => some ⟨frames, .after (.number numeral)⟩
  | .string pieces => some ⟨frames, .after (.string pieces)⟩
  | .openArray => some ⟨frames, .firstItem frames⟩
  | .openObject => some ⟨frames, .firstName frames⟩
  | _ => none

/-- One token more. -/
def step (reader : Reader) (token : Token) : Option Reader :=
  match reader.place, token with
  | .value, token => readValue reader.frames token
  | .firstItem outer, .closeArray => some ⟨outer, .after (.array [])⟩
  | .firstItem outer, token => readValue (.array [] :: outer) token
  | .firstName outer, .closeObject => some ⟨outer, .after (.object [])⟩
  | .firstName outer, .string name => some ⟨outer, .colon [] name outer⟩
  | .name fields outer, .string name => some ⟨outer, .colon fields name outer⟩
  | .colon fields name outer, .colon => some ⟨.object fields name :: outer, .value⟩
  | .after value, .comma =>
    match reader.frames with
    | .array items :: outer => some ⟨.array (value :: items) :: outer, .value⟩
    | .object fields name :: outer => some ⟨outer, .name ((name, value) :: fields) outer⟩
    | [] => none
  | .after value, .closeArray =>
    match reader.frames with
    | .array items :: outer => some ⟨outer, .after (.array (value :: items).reverse)⟩
    | _ => none
  | .after value, .closeObject =>
    match reader.frames with
    | .object fields name :: outer =>
      some ⟨outer, .after (.object ((name, value) :: fields).reverse)⟩
    | _ => none
  | _, _ => none

/-- The value, if it is complete and no bracket is open. -/
def finish (reader : Reader) : Option Document :=
  match reader.frames, reader.place with
  | [], .after value => some value
  | _, _ => none

end Reader

/-- The document that a row of tokens makes. -/
def ofTokens? (tokens : List Token) : Option Document :=
  (tokens.foldlM Reader.step ⟨[], .value⟩).bind Reader.finish

/-- Reads a whole text. -/
def ofBytes? (bytes : List UInt8) : Option Document := (tokensOf? bytes).bind ofTokens?

/-! ## Leaves and lists -/

/-- The text of a string. -/
def text? : Document → Option String
  | string pieces => textOf? pieces
  | _ => none

/-- A word: an unsigned integer numeral, or a string that holds one in decimal. -/
def word? : Document → Option Nat
  | number numeral => numeral.word?
  | string pieces => (textOf? pieces).bind fun text => Word.ofText? Word.top text.toList
  | _ => none

/-- An integer numeral within 64 bits, signed. -/
def int64? : Document → Option Int
  | number numeral => do
    let value ← numeral.integer?
    if -(Word.signBound : Int) ≤ value ∧ value < Word.signBound then some value else none
  | _ => none

/-- The items of an array, each read in the same way. -/
def list? {α : Type} (item : Document → Option α) : Document → Option (List α)
  | array items => items.mapM item
  | _ => none

/-- A member that may be absent or null. -/
def optional? {α : Type} (read : Document → Option α) : Option Document → Option (Option α)
  | none => some none
  | some null => some none
  | some document => (read document).map some

/-! ## Records -/

/-- The value of the only field of a name. It may be absent; two of one name are refused. -/
def member? (fields : List (String × Document)) (name : String) : Option (Option Document) :=
  match fields.filter fun field => field.1 = name with
  | [] => some none
  | [field] => some (some field.2)
  | _ => none

/-- The fields of a record, by their names. Fields of other names are passed over. In an array the fields
stand in order, and there are no others; those at the end may be absent. -/
def record? (names : List String) : Document → Option (List (Option Document))
  | object fields => do
    let named ← fields.mapM fun (name, value) => (textOf? name).map (·, value)
    names.mapM (member? named)
  | array items =>
    if items.length ≤ names.length then
      some (items.map some ++ List.replicate (names.length - items.length) none)
    else none
  | _ => none

/-- The field of a record with one field, which has to be there. -/
def field? (name : String) (document : Document) : Option Document :=
  match document.record? [name] with
  | some [some value] => some value
  | _ => none

end Document
end DutyRelay.Json
