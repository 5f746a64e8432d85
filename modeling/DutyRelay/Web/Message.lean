import DutyRelay.Hex
import DutyRelay.Web
import DutyRelay.Word

/-!
# Messages between web servers

A request goes out as lines of text with its body behind an empty line, and asks for the connection to be
closed after the response. A response comes back as bytes: the lines of a head, an empty line, and a body
that is sent in chunks, has a declared length, or goes on until the connection is closed. Redirections are
responses like any other.

## Contents
- `Web.Request.text`: what is sent.
- `Web.Head`, `Web.Head.read?`: the head of a response.
- `Web.unchunk`: a body in chunks.
- `Web.Response.ofBytes?`: a whole response.
-/

namespace DutyRelay.Web

/-! ## Requests -/

/-- A line of a message. -/
def messageLine (text : String) : String := text ++ "\r\n"

/-- The lines that say what the body is; no body needs none. -/
def bodyLines : Option String → String
  | none => ""
  | some body =>
    messageLine "content-type: application/json" ++
      messageLine ("content-length: " ++ toString body.utf8ByteSize)

/-- A request as it is sent. -/
def Request.text (request : Request) : String :=
  messageLine (request.method.name ++ " " ++ request.url.target ++ " HTTP/1.1") ++
    messageLine ("host: " ++ request.url.authority) ++
    messageLine "accept: */*" ++
    messageLine "connection: close" ++
    bodyLines request.body ++
    messageLine "" ++
    request.body.getD ""

/-! ## Lines -/

/-- The bytes before the first line end, and those behind it. -/
def splitLine (bytes : List UInt8) : List UInt8 × List UInt8 :=
  let line := bytes.takeWhile (· ≠ 10)
  (if line.getLast? = some 13 then line.dropLast else line, (bytes.dropWhile (· ≠ 10)).drop 1)

theorem length_splitLine_lt {bytes : List UInt8} (h : bytes ≠ []) :
    (splitLine bytes).2.length < bytes.length := by
  have hle := (List.dropWhile_suffix (l := bytes) (· ≠ 10)).length_le
  have hpos := List.length_pos_iff.mpr h
  simp only [splitLine, List.length_drop]
  omega

/-- The lines before the first empty one, on top of those in `done`, and what follows it. -/
def headLines (done : List (List UInt8)) (bytes : List UInt8) :
    Option (List (List UInt8) × List UInt8) :=
  if bytes = [] then none
  else if (splitLine bytes).1 = [] then some (done.reverse, (splitLine bytes).2)
  else headLines ((splitLine bytes).1 :: done) (splitLine bytes).2
termination_by bytes.length
decreasing_by exact length_splitLine_lt ‹_›

/-- The characters of a line, one for each byte. -/
def lineText (line : List UInt8) : List Char := line.map fun byte => Char.ofNat byte.toNat

/-! ## Heads -/

/-- The head of a response; the names of its fields are in lower case. -/
structure Head where
  status : Nat
  fields : List (String × String)
deriving DecidableEq, Inhabited, Repr

namespace Head

/-- Reads the status: three digits behind the name of the protocol. -/
def status? (line : List Char) : Option Nat :=
  let digits := ((line.dropWhile (· ≠ ' ')).drop 1).takeWhile (· ≠ ' ')
  if "HTTP/".toList.isPrefixOf line && digits.length = 3 && digits.all Char.isDigit then
    some (Word.ofDigits digits)
  else none

/-- A name and a value, on the two sides of a colon. -/
def field (line : List Char) : String × String :=
  let isBlank (c : Char) : Bool := c = ' ' || c = '\t'
  let value := ((line.dropWhile (· ≠ ':')).drop 1).dropWhile isBlank
  (String.ofList ((line.takeWhile (· ≠ ':')).map Char.toLower),
    String.ofList (value.reverse.dropWhile isBlank).reverse)

/-- Reads a head, and gives it with the bytes behind it. -/
def read? (bytes : List UInt8) : Option (Head × List UInt8) := do
  match ← headLines [] bytes with
  | ([], _) => none
  | (first :: others, rest) =>
    return (⟨← status? (lineText first), others.map fun line => field (lineText line)⟩, rest)

/-- The length of the body, where it is declared. -/
def declared (head : Head) : Option Nat :=
  (head.fields.lookup "content-length").bind fun text => Word.ofText? Word.top text.toList

/-- Whether the body is sent in chunks. -/
def isChunked (head : Head) : Bool :=
  (head.fields.lookup "transfer-encoding").any fun text => text.toLower = "chunked"

end Head

/-! ## Bodies -/

/-- The size in front of a chunk: hexadecimal digits, perhaps with remarks behind them. -/
def chunkSize? (line : List UInt8) : Option Nat :=
  let digits := line.takeWhile fun byte => (Hex.digitValue? byte).isSome
  if digits = [] then none
  else some (digits.foldl (fun n byte => 16 * n + (Hex.digitValue? byte).getD 0) 0)

/-- Reads chunks up to the empty one, on top of those in `done`; the second part says whether it was
reached. -/
def unchunk (done : List (List UInt8)) (bytes : List UInt8) : List (List UInt8) × Bool :=
  if bytes = [] then (done.reverse, false)
  else
    match chunkSize? (splitLine bytes).1 with
    | none => (done.reverse, false)
    | some 0 => (done.reverse, true)
    | some size =>
      let chunk := (splitLine bytes).2.take size
      if chunk.length < size then ((chunk :: done).reverse, false)
      else unchunk (chunk :: done) ((splitLine bytes).2.drop (size + 2))
termination_by bytes.length
decreasing_by
  have := length_splitLine_lt ‹bytes ≠ []›
  simp only [List.length_drop]
  omega

/-- The chunks of a body, and whether it ended as its head says. -/
def bodyOf (head : Head) (bytes : List UInt8) : List (List UInt8) × Bool :=
  if head.isChunked then unchunk [] bytes
  else
    match head.declared with
    | some length => ([bytes.take length], length ≤ bytes.length)
    | none => ([bytes], true)

/-- Reads all that came back before the connection was closed. -/
def Response.ofBytes? (bytes : List UInt8) : Option Response := do
  let (head, rest) ← Head.read? bytes
  let (chunks, isComplete) := bodyOf head rest
  let declared := if head.isChunked then none else head.declared
  return { status := head.status, declared, chunks, isComplete }

end DutyRelay.Web
