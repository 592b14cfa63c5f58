/-
# Switchboard.Rpc.ErrorDetails -- what an error response says

A code, a message and perhaps data. The codes that JSON-RPC reserves have names of their own, and
any other 32-bit code belongs to the server.
-/

import Switchboard.Json.Decode

namespace Switchboard

/-- The code of an error. -/
inductive ErrorCode where
  /-- The text was no JSON. -/
  | parseError
  /-- The request was too long. -/
  | oversizedRequest
  /-- The JSON was no request. -/
  | invalidRequest
  /-- There is no such method. -/
  | methodNotFound
  /-- The server has too much to do. -/
  | serverIsBusy
  /-- The parameters do not fit the method. -/
  | invalidParams
  /-- The method failed. -/
  | internalError
  /-- A code of the server's own. -/
  | serverError (code : Int32)
deriving DecidableEq

namespace ErrorCode

/-- The number of a code. -/
def code : ErrorCode → Int32
  | parseError => -32700
  | oversizedRequest => -32007
  | invalidRequest => -32600
  | methodNotFound => -32601
  | serverIsBusy => -32009
  | invalidParams => -32602
  | internalError => -32603
  | serverError n => n

/-- The code with a number. The number of `serverIsBusy` is not among those recognised. -/
def ofCode (n : Int32) : ErrorCode :=
  if n = -32700 then parseError
  else if n = -32007 then oversizedRequest
  else if n = -32600 then invalidRequest
  else if n = -32601 then methodNotFound
  else if n = -32602 then invalidParams
  else if n = -32603 then internalError
  else serverError n

/-- The general wording of a code. -/
def message : ErrorCode → String
  | parseError => "Parse error"
  | oversizedRequest => "Request is too big"
  | invalidRequest => "Invalid request"
  | methodNotFound => "Method not found"
  | serverIsBusy => "Server is busy, try again later"
  | invalidParams => "Invalid params"
  | internalError => "Internal error"
  | serverError _ => "Server error"

/-- The name of a code. -/
def name : ErrorCode → String
  | parseError => "ParseError"
  | oversizedRequest => "OversizedRequest"
  | invalidRequest => "InvalidRequest"
  | methodNotFound => "MethodNotFound"
  | serverIsBusy => "ServerIsBusy"
  | invalidParams => "InvalidParams"
  | internalError => "InternalError"
  | serverError n => "ServerError(" ++ toString n.toInt ++ ")"

/-- Decodes a code. -/
def decode (d : Json.Doc) : Except Json.DecodeError ErrorCode :=
  (d.asInteger Int32.minValue.toInt Int32.maxValue.toInt "i32").map fun n => ofCode (Int32.ofInt n)

end ErrorCode

/-- The error of an error response. -/
structure ErrorDetails where
  /-- What kind of error it is. -/
  code : ErrorCode
  /-- What happened. -/
  message : String
  /-- More about it. -/
  data : Option Json := none
deriving DecidableEq

namespace ErrorDetails

/-- Details with the code of an invalid request. -/
def invalidRequest (message : String) (data : Option Json) : ErrorDetails :=
  ⟨.invalidRequest, message, data⟩

/-- Details with the code of an unknown method. -/
def methodNotFound (message : String) (data : Option Json) : ErrorDetails :=
  ⟨.methodNotFound, message, data⟩

/-- Details with the code of parameters that do not fit. -/
def invalidParams (message : String) (data : Option Json) : ErrorDetails :=
  ⟨.invalidParams, message, data⟩

/-- Details with the code of a method that failed. -/
def internalError (message : String) (data : Option Json) : ErrorDetails :=
  ⟨.internalError, message, data⟩

/-- The fields of the details, in the order in which they are written. -/
def fields (e : ErrorDetails) : List (String × Json) :=
  [("code", .integer e.code.code.toInt), ("message", .string e.message)] ++
    (e.data.map fun v => ("data", v)).toList

/-- The JSON value of the details. -/
def toJson (e : ErrorDetails) : Json := Json.ofFields e.fields

/-- The fields that are read so far. -/
structure Slots where
  /-- The code. -/
  code : Json.Slot ErrorCode := none
  /-- The message. -/
  message : Json.Slot String := none
  /-- The data. -/
  data : Json.Slot (Option Json) := none

/-- Reads one field. Fields with other names do not matter. -/
def Slots.read (s : Slots) (name : String) (d : Json.Doc) : Except Json.DecodeError Slots :=
  match name with
  | "code" => (s.code.fill name ErrorCode.decode d).map fun v => { s with code := v }
  | "message" => (s.message.fill name (·.asText "a string") d).map fun v => { s with message := v }
  | "data" => (s.data.fill name (·.asOption Json.Doc.asJson) d).map fun v => { s with data := v }
  | _ => d.ignore.map fun _ => s

/-- Decodes error details. -/
def decode (d : Json.Doc) : Except Json.DecodeError ErrorDetails :=
  match d with
  | .object fields close => do
    let s ← Json.foldFields Slots.read {} fields
    close.endFields
    let code ← s.code.required "code"
    let message ← s.message.required "message"
    .ok ⟨code, message, s.data.getD none⟩
  | .array items close => do
    let wanted := "struct ErrorDetails with 3 elements"
    let (code, rest) ← Json.needItem ErrorCode.decode close 0 wanted items
    let (message, rest) ← Json.needItem (·.asText "a string") close 1 wanted rest
    let (data, rest) ← Json.needItem (·.asOption Json.Doc.asJson) close 2 wanted rest
    close.endItems items.length rest
    .ok ⟨code, message, data⟩
  | d => .error (d.mismatch "struct ErrorDetails")

end ErrorDetails

end Switchboard
