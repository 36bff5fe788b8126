import SuiteBridge.Json.Printer
import SuiteBridge.Json.Reader

/-!
# Messages

A host writes one JSON document per line. A document with a method is a request when it has an id
and a notification when it has none; every other line is refused. What goes back is a reply: the
result of a request or an error, under the id of what it answers.
-/

namespace SuiteBridge.Host

/-- Something a host wants to know. -/
structure Request where
  id : Json
  method : String
  params : Json
  deriving Repr

/-- Something a host lets us know. -/
structure Notification where
  method : String
  params : Json
  deriving Repr

/-- A line that was understood. -/
inductive Message where
  | request (request : Request)
  | notification (notification : Notification)
  deriving Repr

/-- Why a line is refused. -/
inductive Refusal where
  | notJson (problem : String)
  | noMethod (id : Json)
  deriving Repr

/-- What an error is about. -/
inductive ErrorCode where
  | parseError
  | invalidRequest
  | methodNotFound
  | invalidParams
  | internalError
  deriving DecidableEq, Repr

/-- The number of an error. -/
def ErrorCode.number : ErrorCode → Int
  | .parseError => -32700
  | .invalidRequest => -32600
  | .methodNotFound => -32601
  | .invalidParams => -32602
  | .internalError => -32603

/-- What goes back to a host. -/
inductive Reply where
  | result (id value : Json)
  | error (id : Json) (code : ErrorCode) (message : String)
  deriving Repr

/-- The version of the protocol that replies are made in. -/
def replyVersion : String := "2.0"

/-- A reply as JSON. -/
def Reply.toJson : Reply → Json
  | .result id value =>
    .object [("jsonrpc", .string replyVersion), ("id", id), ("result", value)]
  | .error id code message =>
    .object [("jsonrpc", .string replyVersion), ("id", id),
      ("error", .object [("code", .int code.number), ("message", .string message)])]

/-- The id of what a reply answers. -/
def Reply.id : Reply → Json
  | .result id _ => id
  | .error id _ _ => id

/-- A reply as a line of its own. -/
def Reply.line (reply : Reply) : String :=
  reply.toJson.render

/-- Documents as they are written, each on a line of its own. -/
def transcript (documents : List Json) : String :=
  String.join (documents.map fun document => document.render ++ "\n")

/-- The reply to a line that is refused. -/
def Refusal.reply : Refusal → Reply
  | .notJson problem => .error .null .parseError ("Parse error: " ++ problem)
  | .noMethod id => .error id .invalidRequest "Invalid request: missing method"

namespace Message

/-- The message in a document. -/
def ofJson (document : Json) : Except Refusal Message :=
  match (document.member? "method").bind Json.text?, document.member? "id" with
  | none, id => .error (.noMethod (Json.orNull id))
  | some method, some id => .ok (.request ⟨id, method, Json.orNull (document.member? "params")⟩)
  | some method, none => .ok (.notification ⟨method, Json.orNull (document.member? "params")⟩)

/-- The message in a line. -/
def ofLine (line : String) : Except Refusal Message :=
  match Json.parse line with
  | .error problem => .error (.notJson problem)
  | .ok document => ofJson document

end Message

/-- The method of the notification that takes a request back. -/
def cancellation : String := "notifications/cancelled"

/-- The request that a notification takes back, and why. -/
def Notification.cancels? (notification : Notification) : Option (Json × String) :=
  if notification.method = cancellation then
    (notification.params.member? "requestId").map fun id =>
      (id, ((notification.params.member? "reason").bind Json.text?).getD "")
  else none

end SuiteBridge.Host
