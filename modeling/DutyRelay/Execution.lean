import DutyRelay.Json.Value
import DutyRelay.Nodes
import DutyRelay.Web

/-!
# The execution node

The execution node takes JSON-RPC calls: a method and parameters go in as one JSON object under a number,
and a result or an error comes back. A payload is handed over by one such call, answered with a truth
value.

## Contents
- `rpcRequest`, `insertParams`: what is sent.
- `RpcReply`, `RpcReply.ofBytes?`, `RpcReply.result`: what comes back.
- `Execution`, `Execution.call`, `Execution.insert`.
-/

namespace DutyRelay

open Json (Document Value)

/-! ## What is sent -/

/-- The method that takes the consensus information of an epoch. -/
def insertMethod : String := "eth_insertMinimalConsensusInfo"

/-- A call as a JSON object. -/
def rpcRequest (id : Nat) (method : String) (params : Value) : Value :=
  .object [("jsonrpc", .string "2.0"), ("id", .integer id), ("method", .string method),
    ("params", params)]

/-- A payload as parameters: the epoch, the keys and the start. -/
def insertParams (payload : Payload) : Value :=
  .array [.integer payload.epoch, .array (payload.keys.map .string), .integer payload.start]

/-! ## What comes back -/

/-- The answer to a call. A member that is null counts as absent. -/
structure RpcReply where
  result : Option Value
  error : Option (Int × String)
deriving Inhabited, Repr

/-- Reads the error member: a code and a text. -/
def rpcError? (document : Document) : Option (Int × String) :=
  match document.record? ["code", "message"] with
  | some [some code, some message] => do return (← code.int64?, ← message.text?)
  | _ => none

namespace RpcReply

/-- Reads an answer; brackets in the result nest one less deep than in a text that is a result alone. -/
def ofDocument? (document : Document) : Option RpcReply :=
  match document.record? ["result", "error"] with
  | some [result, error] => do
    return ⟨← Document.optional? (Value.ofDocument? (Value.depthLimit - 1)) result,
      ← Document.optional? rpcError? error⟩
  | _ => none

/-- Reads the whole body of a response. -/
def ofBytes? (bytes : List UInt8) : Option RpcReply := (Document.ofBytes? bytes).bind ofDocument?

/-- The result of a call, read as the caller wants it. An error counts before any result. -/
def outcome {α : Type} (method : String) (read : Value → Option α) (reply : RpcReply) : Outcome α :=
  match reply.error, reply.result with
  | some (code, text), _ => .error (.rpc code text)
  | none, none => .error (.decode s!"{method}: response has no result")
  | none, some result =>
    match read result with
    | some value => .ok value
    | none => .error (.decode s!"{method}: {Web.jsonRemark}")

end RpcReply

/-! ## Calls -/

/-- An execution node at an address. -/
structure Execution where
  url : String
deriving DecidableEq, Inhabited, Repr

namespace Execution

/-- What a response holds. A status that is no success is reported first; then a body that ended early or
is no answer to a call. -/
def digest {α : Type} (method : String) (url : Url) (read : Value → Option α)
    (response : Web.Response) : Outcome α :=
  if ¬ Web.isSuccess response.status then
    .error (.unavailable s!"execution node ({method} returned {Web.statusText response.status})")
  else if ¬ response.isComplete then .error (.http (.badBody url.text))
  else match RpcReply.ofBytes? response.chunks.flatten with
    | some reply => reply.outcome method read
    | none => .error (.http (.badBody url.text))

/-- Makes a call under the number of a new ticket, and reads its result. -/
def call {α : Type} (node : Execution) (method : String) (params : Value)
    (read : Value → Option α) : Dialogue Web (Outcome α) := do
  let id ← Web.ticket
  Dialogue.note [.debug s!"JSON-RPC call {method} (id {id}) to {node.url}"]
  match Web.addressOf node.url with
  | .error failure => return .error failure
  | .ok url =>
    match ← Web.send ⟨.post, url, some (rpcRequest id method params).text⟩ with
    | none => return .error (.http (.unanswered url.text))
    | some response => return digest method url read response

/-- Hands over a payload. -/
def insert (node : Execution) (payload : Payload) : Dialogue Web (Outcome Bool) :=
  node.call insertMethod (insertParams payload) Value.bool?

end Execution
end DutyRelay
