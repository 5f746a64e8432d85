import DutyRelay.Dialogue
import DutyRelay.Failure
import DutyRelay.Json.Document
import DutyRelay.Url

/-!
# Web servers

Both nodes are web servers. A request goes to an address, and a response comes back or does not; its
body arrives in chunks, with or without a length declared beforehand. Requests that are numbered
take their numbers from tickets: the first ticket is one, and no ticket is given out twice before
all words have been.

## Contents
- `Web.Request`, `Web.Response`, `Web`: the interface, with tickets.
- `Web.addressOf`: the address that a request goes to.
- `Web.statusText`: a status with its reason.
- `Web.takeChunk`, `Web.collect`: a body read up to a limit.
- `Web.Desk`, `Web.attend`: a server with a state of its own, and the tickets.
-/

namespace DutyRelay

namespace Web

inductive Method where
  | get
  | post
deriving DecidableEq, Inhabited, Repr

def Method.name : Method → String
  | .get => "GET"
  | .post => "POST"

/-- A request; a body is JSON text. -/
structure Request where
  method : Method
  url : Url
  body : Option String
deriving DecidableEq, Repr

/-- The response to a request. -/
structure Response where
  status : Nat
  /-- The length of the body, where it was declared. -/
  declared : Option Nat
  chunks : List (List UInt8)
  /-- Whether the body ended as it should, and not early. -/
  isComplete : Bool
deriving DecidableEq, Inhabited, Repr

inductive Query where
  | ticket
  /-- Sends a request. There is no response if the server cannot be reached, drops the connection, or
  takes too long. -/
  | send (request : Request)
deriving DecidableEq, Repr

def Reply : Query → Type
  | .ticket => Nat
  | .send _ => Option Response

end Web

/-- Web servers, and a place that gives out tickets. -/
def Web : Interface where
  Query := Web.Query
  Reply := Web.Reply

namespace Web

/-- Takes a ticket. -/
def ticket : Dialogue Web Nat := @Dialogue.ask Web .ticket

/-- Sends a request. -/
def send (request : Request) : Dialogue Web (Option Response) := @Dialogue.ask Web (.send request)

/-- The address that text stands for, if a request can go to it. -/
def addressOf (text : String) : Outcome Url :=
  match Url.ofText? text with
  | none => .error (.http (.badAddress none))
  | some url => if url.isSendable then .ok url else .error (.http (.badAddress (some url.text)))

/-! ## Status -/

/-- The reasons of the statuses that are no success. -/
def reasons : List (Nat × String) :=
  [(300, "Multiple Choices"), (301, "Moved Permanently"), (302, "Found"), (303, "See Other"),
    (304, "Not Modified"), (305, "Use Proxy"), (307, "Temporary Redirect"),
    (308, "Permanent Redirect"), (400, "Bad Request"), (401, "Unauthorized"),
    (402, "Payment Required"), (403, "Forbidden"), (404, "Not Found"), (405, "Method Not Allowed"),
    (406, "Not Acceptable"), (407, "Proxy Authentication Required"), (408, "Request Timeout"),
    (409, "Conflict"), (410, "Gone"), (411, "Length Required"), (412, "Precondition Failed"),
    (413, "Payload Too Large"), (414, "URI Too Long"), (415, "Unsupported Media Type"),
    (416, "Range Not Satisfiable"), (417, "Expectation Failed"), (418, "I'm a teapot"),
    (421, "Misdirected Request"), (422, "Unprocessable Entity"), (423, "Locked"),
    (424, "Failed Dependency"), (425, "Too Early"), (426, "Upgrade Required"),
    (428, "Precondition Required"), (429, "Too Many Requests"),
    (431, "Request Header Fields Too Large"), (451, "Unavailable For Legal Reasons"),
    (500, "Internal Server Error"), (501, "Not Implemented"), (502, "Bad Gateway"),
    (503, "Service Unavailable"), (504, "Gateway Timeout"), (505, "HTTP Version Not Supported"),
    (506, "Variant Also Negotiates"), (507, "Insufficient Storage"), (508, "Loop Detected"),
    (510, "Not Extended"), (511, "Network Authentication Required")]

/-- A status with its reason. -/
def statusText (status : Nat) : String :=
  let reason := (reasons.lookup status).getD "<unknown status code>"
  s!"{status} {reason}"

/-- Whether a status reports success. -/
def isSuccess (status : Nat) : Bool := 200 ≤ status && status < 300

/-! ## Bodies -/

/-- Refuses a size beyond the limit. -/
def checkSize (size limit : Nat) : Outcome Unit :=
  if limit < size then .error (.responseTooLarge size limit) else .ok ()

/-- One round of reading a body: the next chunk goes into the buffer, if it fits. -/
def takeChunk (limit : Nat) (buffer chunk : List UInt8) : Outcome (List UInt8) := do
  checkSize (buffer.length + chunk.length) limit
  return buffer ++ chunk

/-- Reads a body of at most `limit` bytes, one chunk after another. The first chunk that does not fit ends
the reading. -/
def collect (limit : Nat) (chunks : List (List UInt8)) : Outcome (List UInt8) :=
  chunks.foldlM (takeChunk limit) []

/-- The text that stands, in a failure, for what exactly is wrong with a JSON text. -/
def jsonRemark : String := "<json>"

/-! ## Servers with a state -/

/-- The next ticket, and the state of a server. -/
structure Desk (σ : Type) where
  nextTicket : Nat
  server : σ

/-- The desk before the first ticket. -/
def Desk.start {σ : Type} (server : σ) : Desk σ := ⟨1, server⟩

/-- Gives out tickets in order, and passes requests on to a server. -/
def attend {σ : Type} (serve : Request → σ → Option Response × σ) :
    (query : Query) → Desk σ → Reply query × Desk σ
  | .ticket, desk => (desk.nextTicket, { desk with nextTicket := (desk.nextTicket + 1) % (Word.top + 1) })
  | .send request, desk =>
    let (response, server) := serve request desk.server
    (response, { desk with server })

end Web
end DutyRelay
