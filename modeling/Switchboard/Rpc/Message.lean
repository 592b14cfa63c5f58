/-
# Switchboard.Rpc.Message -- requests, notifications and responses

The three shapes of JSON-RPC, their JSON form and their decoders. The version marker
`"jsonrpc": "2.0"` may be left out everywhere; a response has it exactly when its request had it.

Values are written in two ways with the same fields: `toJson` makes the JSON value, whose fields
are ordered, and `wire` the text, whose fields stand in the order in which they are declared.

A document is a notification if it can be one, else a request if it can be one, else a response;
in a response, an `error` that can be read comes before any `result`.
-/

import Switchboard.Rpc.ErrorDetails
import Switchboard.Rpc.Id

namespace Switchboard

/-! ## Parts shared by the shapes -/

namespace Rpc

/-- The field of the version marker, if it is to be written. -/
def markerField (marked : Bool) : List (String × Json) :=
  if marked then [("jsonrpc", .string "2.0")] else []

/-- An optional field. -/
def optionalField (name : String) (value : Option Json) : List (String × Json) :=
  (value.map fun v => (name, v)).toList

/-- Decodes a version marker. -/
def decodeMarker (d : Json.Doc) : Except Json.DecodeError Unit := do
  let s ← d.asText "a string \"2.0\""
  if s = "2.0" then .ok () else .error (.wrongValue (.string s) "a string \"2.0\"")

/-- Decodes a version marker that may be `null`. -/
def decodeMarked (d : Json.Doc) : Except Json.DecodeError Bool :=
  (d.asOption decodeMarker).map Option.isSome

/-- Decodes the name of a method. -/
def decodeMethod (d : Json.Doc) : Except Json.DecodeError String := d.asText "a string"

/-- Decodes parameters that may be `null`. -/
def decodeParams (d : Json.Doc) : Except Json.DecodeError (Option Json) :=
  d.asOption Json.Doc.asJson

/-- Decodes an id that may be `null`, which here means that there is none. -/
def decodeOptionalId (d : Json.Doc) : Except Json.DecodeError (Option Id) :=
  d.asOption Id.decode

end Rpc

/-! ## Requests -/

/-- A call of a method, answered if it has an id. -/
structure Request where
  /-- Whether the request has the version marker. -/
  marked : Bool := false
  /-- What the answer is to be tied to. -/
  id : Option Id := none
  /-- The method. -/
  method : String
  /-- The parameters. -/
  params : Option Json := none
deriving DecidableEq

namespace Request

/-- The fields, in the order in which they are written. -/
def fields (r : Request) : List (String × Json) :=
  Rpc.markerField r.marked ++ Rpc.optionalField "id" (r.id.map Id.toJson) ++
    [("method", .string r.method)] ++ Rpc.optionalField "params" r.params

/-- The JSON value. -/
def toJson (r : Request) : Json := Json.ofFields r.fields

/-- The text. -/
def wire (r : Request) : String := (Json.object r.fields).render

/-- The fields that are read so far. -/
structure Slots where
  /-- The version marker. -/
  marked : Json.Slot Bool := none
  /-- The id. -/
  id : Json.Slot (Option Id) := none
  /-- The method. -/
  method : Json.Slot String := none
  /-- The parameters. -/
  params : Json.Slot (Option Json) := none

/-- Reads one field. Fields with other names do not matter. -/
def Slots.read (s : Slots) (name : String) (d : Json.Doc) : Except Json.DecodeError Slots :=
  match name with
  | "jsonrpc" => (s.marked.fill name Rpc.decodeMarked d).map fun v => { s with marked := v }
  | "id" => (s.id.fill name Rpc.decodeOptionalId d).map fun v => { s with id := v }
  | "method" => (s.method.fill name Rpc.decodeMethod d).map fun v => { s with method := v }
  | "params" => (s.params.fill name Rpc.decodeParams d).map fun v => { s with params := v }
  | _ => d.ignore.map fun _ => s

/-- Decodes a request. -/
def decode (d : Json.Doc) : Except Json.DecodeError Request :=
  match d with
  | .object fields close => do
    let s ← Json.foldFields Slots.read {} fields
    close.endFields
    let method ← s.method.required "method"
    .ok ⟨s.marked.getD false, s.id.getD none, method, s.params.getD none⟩
  | .array items close => do
    let (marked, rest) ← Json.nextItem Rpc.decodeMarked close items
    let (id, rest) ← Json.nextItem Rpc.decodeOptionalId close rest
    let (method, rest) ←
      Json.needItem Rpc.decodeMethod close 2 "struct Request with 4 elements" rest
    let (params, rest) ← Json.nextItem Rpc.decodeParams close rest
    close.endItems items.length rest
    .ok ⟨marked.getD false, id.getD none, method, params.getD none⟩
  | d => .error (d.mismatch "struct Request")

end Request

/-! ## Notifications -/

/-- A call of a method that is never answered. -/
structure Notification where
  /-- Whether the notification has the version marker. -/
  marked : Bool := false
  /-- The method. -/
  method : String
  /-- The parameters. -/
  params : Option Json := none
deriving DecidableEq

namespace Notification

/-- The fields, in the order in which they are written. -/
def fields (n : Notification) : List (String × Json) :=
  Rpc.markerField n.marked ++ [("method", .string n.method)] ++
    Rpc.optionalField "params" n.params

/-- The JSON value. -/
def toJson (n : Notification) : Json := Json.ofFields n.fields

/-- The text. -/
def wire (n : Notification) : String := (Json.object n.fields).render

/-- The fields that are read so far. -/
structure Slots where
  /-- The version marker. -/
  marked : Json.Slot Bool := none
  /-- The method. -/
  method : Json.Slot String := none
  /-- The parameters. -/
  params : Json.Slot (Option Json) := none

/-- Reads one field. A notification has no other fields. -/
def Slots.read (s : Slots) (name : String) (d : Json.Doc) : Except Json.DecodeError Slots :=
  match name with
  | "jsonrpc" => (s.marked.fill name Rpc.decodeMarked d).map fun v => { s with marked := v }
  | "method" => (s.method.fill name Rpc.decodeMethod d).map fun v => { s with method := v }
  | "params" => (s.params.fill name Rpc.decodeParams d).map fun v => { s with params := v }
  | _ => .error (.unknownField name ["jsonrpc", "method", "params"])

/-- Decodes a notification. -/
def decode (d : Json.Doc) : Except Json.DecodeError Notification :=
  match d with
  | .object fields close => do
    let s ← Json.foldFields Slots.read {} fields
    close.endFields
    let method ← s.method.required "method"
    .ok ⟨s.marked.getD false, method, s.params.getD none⟩
  | .array items close => do
    let (marked, rest) ← Json.nextItem Rpc.decodeMarked close items
    let (method, rest) ←
      Json.needItem Rpc.decodeMethod close 1 "struct Notification with 3 elements" rest
    let (params, rest) ← Json.nextItem Rpc.decodeParams close rest
    close.endItems items.length rest
    .ok ⟨marked.getD false, method, params.getD none⟩
  | d => .error (d.mismatch "struct Notification")

end Notification

/-! ## Responses -/

/-- What a response carries. -/
inductive ResponsePayload where
  /-- The error of a request that failed. -/
  | error (details : ErrorDetails)
  /-- The result of a request. -/
  | success (result : Json)
deriving DecidableEq

namespace ResponsePayload

/-- The fields; `asObject` makes the inner object. -/
def fieldsWith (asObject : List (String × Json) → Json) : ResponsePayload → List (String × Json)
  | error details => [("error", asObject details.fields)]
  | success result => [("result", result)]

/-- The JSON value. -/
def toJson (p : ResponsePayload) : Json := Json.ofFields (p.fieldsWith Json.ofFields)

/-- The text. -/
def wire (p : ResponsePayload) : String := (Json.object (p.fieldsWith .object)).render

/-- Decodes an object whose one field that matters is `name`, or an array of one item. -/
def decodeField {α : Type} (name type : String) (decode : Json.Doc → Except Json.DecodeError α)
    (d : Json.Doc) : Except Json.DecodeError α :=
  match d with
  | .object fields close => do
    let read (s : Json.Slot α) (k : String) (d : Json.Doc) :
        Except Json.DecodeError (Json.Slot α) :=
      if k = name then s.fill name decode d else d.ignore.map fun _ => s
    let s ← Json.foldFields read none fields
    close.endFields
    s.required name
  | .array items close => do
    let (v, rest) ← Json.needItem decode close 0 (type ++ " with 1 element") items
    close.endItems items.length rest
    .ok v
  | d => .error (d.mismatch type)

/-- Decodes the payload of a response: an error if it can be read as one, else a result. -/
def decode (d : Json.Doc) : Except Json.DecodeError ResponsePayload := do
  d.buffer
  match decodeField "error" "struct ErrorResponse" ErrorDetails.decode d with
  | .ok details => .ok (error details)
  | .error _ =>
    match decodeField "result" "struct SuccessResponse" Json.Doc.asJson d with
    | .ok result => .ok (success result)
    | .error _ => .error (.noAlternative "ResponsePayload")

end ResponsePayload

/-- The answer to a request. -/
structure Response where
  /-- Whether the response has the version marker. -/
  marked : Bool := false
  /-- The id of the request. -/
  id : Id
  /-- The result or the error. -/
  payload : ResponsePayload
deriving DecidableEq

namespace Response

/-- The answer with a result. -/
def success (id : Id) (result : Json) : Response := { id, payload := .success result }

/-- The answer with an error. -/
def error (id : Id) (details : ErrorDetails) : Response := { id, payload := .error details }

/-- The result, if it is one. -/
def result? (r : Response) : Option Json :=
  match r.payload with
  | .success v => some v
  | .error _ => none

/-- The error, if it is one. -/
def error? (r : Response) : Option ErrorDetails :=
  match r.payload with
  | .error e => some e
  | .success _ => none

/-- The fields, in the order in which they are written; `asObject` makes the inner object. -/
def fieldsWith (asObject : List (String × Json) → Json) (r : Response) : List (String × Json) :=
  Rpc.markerField r.marked ++ [("id", r.id.toJson)] ++ r.payload.fieldsWith asObject

/-- The JSON value. -/
def toJson (r : Response) : Json := Json.ofFields (r.fieldsWith Json.ofFields)

/-- The text. -/
def wire (r : Response) : String := (Json.object (r.fieldsWith .object)).render

/-- The fields that are read so far. -/
structure Slots where
  /-- The version marker. -/
  marked : Json.Slot Bool := none
  /-- The id. -/
  id : Json.Slot Id := none
  /-- The other fields, which make up the payload. -/
  payload : List (String × Json.Doc) := []

/-- Reads one field. -/
def Slots.read (s : Slots) (name : String) (d : Json.Doc) : Except Json.DecodeError Slots :=
  match name with
  | "jsonrpc" => (s.marked.fill name Rpc.decodeMarked d).map fun v => { s with marked := v }
  | "id" => (s.id.fill name Id.decode d).map fun v => { s with id := v }
  | _ => d.buffer.map fun _ => { s with payload := s.payload ++ [(name, d)] }

/-- Decodes a response, which cannot be given as an array. -/
def decode (d : Json.Doc) : Except Json.DecodeError Response :=
  match d with
  | .object fields close => do
    let s ← Json.foldFields Slots.read {} fields
    close.endFields
    let id ← s.id.required "id"
    let payload ← ResponsePayload.decode (.object s.payload .closed)
    .ok ⟨s.marked.getD false, id, payload⟩
  | d => .error (d.mismatch "struct Response")

end Response

/-! ## Messages -/

/-- A message of any of the three shapes. -/
inductive RpcMessage where
  /-- A call that is not answered. -/
  | notification (n : Notification)
  /-- A call. -/
  | request (r : Request)
  /-- An answer. -/
  | response (r : Response)
deriving DecidableEq

namespace RpcMessage

/-- The response, if it is one. -/
def response? : RpcMessage → Option Response
  | response r => some r
  | _ => none

/-- The notification, if it is one. -/
def notification? : RpcMessage → Option Notification
  | notification n => some n
  | _ => none

/-- The name of the shape. -/
def shape : RpcMessage → String
  | notification _ => "Notification"
  | request _ => "Request"
  | response _ => "Response"

/-- The JSON value. -/
def toJson : RpcMessage → Json
  | notification n => n.toJson
  | request r => r.toJson
  | response r => r.toJson

/-- The text. -/
def wire : RpcMessage → String
  | notification n => n.wire
  | request r => r.wire
  | response r => r.wire

/-- Decodes a message: the first shape that fits, in the order notification, request, response. -/
def decode (d : Json.Doc) : Except Json.DecodeError RpcMessage := do
  d.buffer
  match Notification.decode d with
  | .ok n => .ok (notification n)
  | .error _ =>
    match Request.decode d with
    | .ok r => .ok (request r)
    | .error _ =>
      match Response.decode d with
      | .ok r => .ok (response r)
      | .error _ => .error (.noAlternative "JsonRpcMessage")

/-- The message that a JSON value stands for. -/
def ofJson? (v : Json) : Except Json.DecodeError RpcMessage := decode v.toDoc

end RpcMessage

end Switchboard
