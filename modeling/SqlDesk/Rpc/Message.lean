import SqlDesk.Event
import SqlDesk.Json.Printer
import SqlDesk.Json.Reader
import SqlDesk.Json.Record

/-! Messages of JSON-RPC. A request wants a response with its id; a notification wants none. A value
is taken for the first kind whose fields it has: a request, a notification, a response. -/

set_option autoImplicit false

namespace SqlDesk.Rpc

inductive MessageId where
  | number (value : Int64)
  | text (value : String)
  deriving DecidableEq, Repr

structure ResponseError where
  code : Int64
  message : String
  deriving DecidableEq, Repr

structure Request where
  version : String
  id : MessageId
  method : String
  params : Json

structure Notification where
  version : String
  method : String
  params : Json

structure Response where
  version : String
  id : MessageId
  result : Option Json
  error : Option ResponseError

inductive Message where
  | request (request : Request)
  | notification (notification : Notification)
  | response (response : Response)

def Message.kind : Message → String
  | request _ => "request"
  | notification _ => "notification"
  | response _ => "response"

def protocolVersion : String := "2.0"

def Request.of (id : MessageId) (method : String) (params : Json) : Request :=
  ⟨protocolVersion, id, method, params⟩

def Notification.of (method : String) (params : Json) : Notification :=
  ⟨protocolVersion, method, params⟩

def Response.success (id : MessageId) (result : Json) : Response :=
  ⟨protocolVersion, id, some result, none⟩

def Response.rejection (id : MessageId) (code : Int64) (message : String) : Response :=
  ⟨protocolVersion, id, none, some ⟨code, message⟩⟩

/-! The JSON values of messages. -/

def MessageId.toJson : MessageId → Json
  | number value => .integer value.toInt
  | text value => .string value

def ResponseError.toJson (error : ResponseError) : Json :=
  .object [("code", .integer error.code.toInt), ("message", .string error.message)]

def Message.toJson : Message → Json
  | request message =>
    .object [("jsonrpc", .string message.version), ("id", message.id.toJson),
      ("method", .string message.method), ("params", message.params)]
  | notification message =>
    .object [("jsonrpc", .string message.version), ("method", .string message.method),
      ("params", message.params)]
  | response message =>
    .ofPresent [("jsonrpc", some (.string message.version)), ("id", some message.id.toJson),
      ("result", message.result), ("error", message.error.map ResponseError.toJson)]

/-! Reading messages. The value read may hold repeated names; those of the message itself may not be
repeated, those inside its parameters or its result are collected. -/

def word? (json : Json) : Option Int64 := (Json.asSigned? 64 json).map Int64.ofInt

def MessageId.ofJson? : Json → Option MessageId
  | .string value => some (text value)
  | json => (word? json).map number

def ResponseError.ofJson? (json : Json) : Option ResponseError := do
  match ← json.fields? ["code", "message"] with
  | [code, message] =>
    return ⟨← Json.required? word? code, ← Json.required? Json.asString? message⟩
  | _ => failure

def anyJson? (json : Json) : Option Json := some json.settle

def Request.ofJson? (json : Json) : Option Request := do
  match ← json.fields? ["jsonrpc", "id", "method", "params"] with
  | [version, id, method, params] =>
    return ⟨← Json.required? Json.asString? version, ← Json.required? MessageId.ofJson? id,
      ← Json.required? Json.asString? method, ← Json.defaulted? .null anyJson? params⟩
  | _ => failure

def Notification.ofJson? (json : Json) : Option Notification := do
  match ← json.fields? ["jsonrpc", "method", "params"] with
  | [version, method, params] =>
    return ⟨← Json.required? Json.asString? version, ← Json.required? Json.asString? method,
      ← Json.defaulted? .null anyJson? params⟩
  | _ => failure

def Response.ofJson? (json : Json) : Option Response := do
  match ← json.fields? ["jsonrpc", "id", "result", "error"] with
  | [version, id, result, error] =>
    return ⟨← Json.required? Json.asString? version, ← Json.required? MessageId.ofJson? id,
      ← Json.optional? anyJson? result, ← Json.optional? ResponseError.ofJson? error⟩
  | _ => failure

def Message.ofJson? (json : Json) : Option Message :=
  (Request.ofJson? json).map request
    <|> (Notification.ofJson? json).map notification
    <|> (Response.ofJson? json).map response

def Message.ofBody? (body : Bytes) : Option Message := do
  Message.ofJson? (← Json.parseRaw? (← Bytes.toString? body).toList)

def Message.body (message : Message) : Bytes := Bytes.ofString message.toJson.render

/-! The progress of a query: a notification for every event. -/

def methodOf : Happening → String
  | .batchStarted _ => "query/batchStart"
  | .batchCompleted _ => "query/batchComplete"
  | .resultAvailable _ => "query/resultSetAvailable"
  | .resultUpdated _ => "query/resultSetUpdated"
  | .resultCompleted _ => "query/resultSetComplete"
  | .message _ => "query/message"
  | .queryCompleted _ => "query/complete"

def payloadName : Happening → String
  | .batchStarted _ | .batchCompleted _ => "batchSummary"
  | .resultAvailable _ | .resultUpdated _ | .resultCompleted _ => "resultSetSummary"
  | .message _ => "message"
  | .queryCompleted _ => "batchSummaries"

def Notification.ofEvent (event : Event) : Notification :=
  .of (methodOf event.happening)
    (.object [("ownerUri", .string event.owner),
      (payloadName event.happening, event.happening.payload)])

end SqlDesk.Rpc
