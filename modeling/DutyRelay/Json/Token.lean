import DutyRelay.Hex
import DutyRelay.Json.Numeral

/-!
# JSON tokens

JSON text comes as bytes and is cut into tokens one byte at a time. A string is kept as pieces: bytes as
they are, and 16-bit units where the text writes them by number. Whether the pieces make a text is asked
only of strings that are used, so a string that is passed over may hold anything.

## Contents
- `Piece`, `Token`.
- `Scanner`: what has been read so far; `Scanner.step`, `Scanner.finish`.
- `tokensOf?`: the tokens of a whole text.
- `textOf?`: the text that the pieces of a string make.
-/

namespace DutyRelay.Json

/-- A part of a string. -/
inductive Piece where
  | byte (value : UInt8)
  /-- A 16-bit unit that was written by number. -/
  | unit (value : Nat)
deriving DecidableEq, Inhabited, Repr

/-- The smallest parts of JSON text that mean something. -/
inductive Token where
  | openObject
  | closeObject
  | openArray
  | closeArray
  | comma
  | colon
  | null
  | bool (value : Bool)
  | number (numeral : Numeral)
  | string (pieces : List Piece)
deriving DecidableEq, Inhabited, Repr

/-! ## Cutting text into tokens -/

/-- Where the scanner stands; what belongs to the present token is held in reverse. -/
inductive Mode where
  | between
  /-- Inside a literal or a number. -/
  | word (letters : List Char)
  | string (pieces : List Piece)
  /-- After a backslash. -/
  | escape (pieces : List Piece)
  /-- Inside a unit written by number, with so many digits to go. -/
  | unit (pieces : List Piece) (missing value : Nat)
deriving DecidableEq, Inhabited, Repr

/-- The tokens read so far, in reverse, and the present place. -/
structure Scanner where
  tokens : List Token
  mode : Mode
deriving DecidableEq, Inhabited, Repr

def isBlank (c : Char) : Bool := c = ' ' || c = '\t' || c = '\n' || c = '\r'

/-- The characters that literals and numbers are made of. -/
def isWordChar (c : Char) : Bool := c.isAlphanum || c = '+' || c = '-' || c = '.'

/-- The token that is a single character. -/
def punctuation? : Char → Option Token
  | '\x7b' => some .openObject
  | '\x7d' => some .closeObject
  | '[' => some .openArray
  | ']' => some .closeArray
  | ',' => some .comma
  | ':' => some .colon
  | _ => none

/-- The token that a literal or a number is. -/
def wordToken? (letters : List Char) : Option Token :=
  if letters = ['n', 'u', 'l', 'l'] then some .null
  else if letters = ['t', 'r', 'u', 'e'] then some (.bool true)
  else if letters = ['f', 'a', 'l', 's', 'e'] then some (.bool false)
  else (Numeral.ofText? letters).map .number

/-- The byte that a letter after a backslash stands for. -/
def escaped? : Char → Option UInt8
  | '"' => some 0x22
  | '\x5c' => some 0x5c
  | '/' => some 0x2f
  | 'b' => some 0x08
  | 'f' => some 0x0c
  | 'n' => some 0x0a
  | 'r' => some 0x0d
  | 't' => some 0x09
  | _ => none

namespace Scanner

/-- Nothing read. -/
def start : Scanner := ⟨[], .between⟩

/-- One byte, with no token begun. -/
def begin (tokens : List Token) (c : Char) : Option Scanner :=
  if isBlank c then some ⟨tokens, .between⟩
  else if c = '"' then some ⟨tokens, .string []⟩
  else if isWordChar c then some ⟨tokens, .word [c]⟩
  else (punctuation? c).map fun token => ⟨token :: tokens, .between⟩

/-- One byte more. A control character inside a string is refused. -/
def step (scanner : Scanner) (byte : UInt8) : Option Scanner :=
  let tokens := scanner.tokens
  let c := Char.ofUInt8 byte
  match scanner.mode with
  | .between => begin tokens c
  | .word letters =>
    if isWordChar c then some ⟨tokens, .word (c :: letters)⟩
    else do begin ((← wordToken? letters.reverse) :: tokens) c
  | .string pieces =>
    if c = '"' then some ⟨.string pieces.reverse :: tokens, .between⟩
    else if c = '\x5c' then some ⟨tokens, .escape pieces⟩
    else if byte < 0x20 then none
    else some ⟨tokens, .string (.byte byte :: pieces)⟩
  | .escape pieces =>
    if c = 'u' then some ⟨tokens, .unit pieces 4 0⟩
    else (escaped? c).map fun value => ⟨tokens, .string (.byte value :: pieces)⟩
  | .unit pieces missing value => do
    let value := 16 * value + (← Hex.digitValue? byte)
    if missing ≤ 1 then some ⟨tokens, .string (.unit value :: pieces)⟩
    else some ⟨tokens, .unit pieces (missing - 1) value⟩

/-- The tokens once the text has ended; it may not end inside a string. -/
def finish (scanner : Scanner) : Option (List Token) :=
  match scanner.mode with
  | .between => some scanner.tokens.reverse
  | .word letters => (wordToken? letters.reverse).map fun token => (token :: scanner.tokens).reverse
  | _ => none

end Scanner

/-- The tokens of a text, if it can be cut into tokens. -/
def tokensOf? (bytes : List UInt8) : Option (List Token) :=
  (bytes.foldlM Scanner.step Scanner.start).bind Scanner.finish

/-! ## The text of a string -/

def isHighSurrogate (unit : Nat) : Bool := 0xd800 ≤ unit && unit < 0xdc00

def isLowSurrogate (unit : Nat) : Bool := 0xdc00 ≤ unit && unit < 0xe000

/-- The UTF-8 bytes of pieces, in reverse and in front of `done`. A surrogate has to be half of a pair. -/
def bytesOfPieces? (done : List UInt8) : List Piece → Option (List UInt8)
  | [] => some done
  | .byte value :: rest => bytesOfPieces? (value :: done) rest
  | .unit high :: .unit low :: rest =>
    if isHighSurrogate high then
      if isLowSurrogate low then
        let char := Char.ofNat (0x10000 + (high - 0xd800) * 0x400 + (low - 0xdc00))
        bytesOfPieces? ((String.utf8EncodeChar char).reverse ++ done) rest
      else none
    else if isLowSurrogate high then none
    else bytesOfPieces? ((String.utf8EncodeChar (Char.ofNat high)).reverse ++ done)
      (.unit low :: rest)
  | .unit value :: rest =>
    if isHighSurrogate value || isLowSurrogate value then none
    else bytesOfPieces? ((String.utf8EncodeChar (Char.ofNat value)).reverse ++ done) rest

/-- The text of a string, if its pieces make valid UTF-8. -/
def textOf? (pieces : List Piece) : Option String := do
  let bytes ← bytesOfPieces? [] pieces
  String.fromUTF8? ⟨bytes.reverse.toArray⟩

end DutyRelay.Json
