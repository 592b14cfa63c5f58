/-
# Switchboard.Sample.Basic -- an application to try the bus with

The sample application keeps a ledger. Handlers get at it through a parameter that only the
application's own argument resolver can bind. This module holds the ledger, the types of
parameters that the handlers use, and their extractors; how types are called is left open
(`TypeNames`).
-/

import Switchboard.Handler.Function
import Switchboard.Json.Located

namespace Switchboard.Sample

/-! ## State -/

/-- What the sample application keeps: a sum and the number of times that it was looked at. -/
structure Ledger where
  /-- The sum. -/
  total : Int64 := 0
  /-- How often the ledger was used. -/
  calls : Nat := 0
deriving DecidableEq

/-- Uses the ledger to add to the sum. -/
def Ledger.add (l : Ledger) (n : Int64) : Ledger := ⟨l.total + n, l.calls + 1⟩

/-! ## Names -/

/-- How types and functions are called. -/
structure TypeNames where
  /-- Integers of 64 bits. -/
  int64 : String
  /-- Integers from 0 to 255. -/
  byte : String
  /-- Truth values. -/
  bool : String
  /-- Texts. -/
  text : String
  /-- No value. -/
  unit : String
  /-- JSON values. -/
  json : String
  /-- Values of a type that may be absent. -/
  option : String → String
  /-- Lists of values of a type. -/
  list : String → String
  /-- The extractors of the library. -/
  part : String → String
  /-- The types and functions of the sample application. -/
  own : String → String

/-! ## Decoders -/

/-- A point in the plane, perhaps with a label. -/
structure Point where
  /-- Its first coordinate. -/
  x : Int64
  /-- Its second coordinate. -/
  y : Int64
  /-- What it is called. -/
  label : Option String := none

namespace Point

/-- Decodes a label that may be `null`. -/
def decodeLabel (d : Json.Doc) : Except Json.DecodeError (Option String) :=
  d.asOption (·.asText "a string")

/-- The fields that are read so far. -/
structure Slots where
  /-- The first coordinate. -/
  x : Json.Slot Int64 := none
  /-- The second coordinate. -/
  y : Json.Slot Int64 := none
  /-- The label. -/
  label : Json.Slot (Option String) := none

/-- Reads one field. Fields with other names do not matter. -/
def Slots.read (s : Slots) (name : String) (d : Json.Doc) : Except Json.DecodeError Slots :=
  match name with
  | "x" => (s.x.fill name Json.Doc.asInt64 d).map fun v => { s with x := v }
  | "y" => (s.y.fill name Json.Doc.asInt64 d).map fun v => { s with y := v }
  | "label" => (s.label.fill name decodeLabel d).map fun v => { s with label := v }
  | _ => d.ignore.map fun _ => s

/-- Decodes a point. -/
def decode (d : Json.Doc) : Except Json.DecodeError Point :=
  match d with
  | .object fields close => do
    let s ← Json.foldFields Slots.read {} fields
    close.endFields
    let x ← s.x.required "x"
    let y ← s.y.required "y"
    .ok ⟨x, y, s.label.getD none⟩
  | .array items close => do
    let wanted := "struct Point with 3 elements"
    let (x, rest) ← Json.needItem Json.Doc.asInt64 close 0 wanted items
    let (y, rest) ← Json.needItem Json.Doc.asInt64 close 1 wanted rest
    let (label, rest) ← Json.nextItem decodeLabel close rest
    close.endItems items.length rest
    .ok ⟨x, y, label.getD none⟩
  | d => .error (d.mismatch "struct Point")

/-- The JSON value. -/
def toJson (p : Point) : Json :=
  Json.ofFields [("x", .integer p.x.toInt), ("y", .integer p.y.toInt),
    ("label", .textOrNull p.label)]

end Point

/-- Decodes the items of a list one after another. -/
def decodeItems {α : Type} (decode : Json.Doc → Except Json.DecodeError α) :
    List Json.Doc → Except Json.DecodeError (List α)
  | [] => .ok []
  | d :: ds => do
    let v ← decode d
    let vs ← decodeItems decode ds
    .ok (v :: vs)

/-- Decodes a list. -/
def decodeList {α : Type} (decode : Json.Doc → Except Json.DecodeError α) (d : Json.Doc) :
    Except Json.DecodeError (List α) :=
  match d with
  | .array items close => do
    let vs ← decodeItems decode items
    close.endItems items.length []
    .ok vs
  | d => .error (d.mismatch "a sequence")

/-! ## Extractors -/

namespace TypeNames

variable (t : TypeNames)

/-- An integer of 64 bits. -/
def int64Param : Extractor Int64 := .decoding t.int64 Json.Doc.asInt64

/-- An integer of 64 bits that may be absent. -/
def optionalInt64Param : Extractor (Option Int64) :=
  .decoding (t.option t.int64) (·.asOption Json.Doc.asInt64)

/-- An integer from 0 to 255. -/
def byteParam : Extractor Int := .decoding t.byte (·.asInteger 0 255 "u8")

/-- A truth value. -/
def boolParam : Extractor Bool := .decoding t.bool Json.Doc.asBool

/-- A text. -/
def textParam : Extractor String := .decoding t.text (·.asText "a string")

/-- A text that may be absent. -/
def optionalTextParam : Extractor (Option String) :=
  .decoding (t.option t.text) (·.asOption (·.asText "a string"))

/-- A list of integers. -/
def int64sParam : Extractor (List Int64) :=
  .decoding (t.list t.int64) (decodeList Json.Doc.asInt64)

/-- A list of texts. -/
def textsParam : Extractor (List String) :=
  .decoding (t.list t.text) (decodeList (·.asText "a string"))

/-- A point. -/
def pointParam : Extractor Point := .decoding (t.own "Point") Point.decode

/-- Any JSON value. -/
def jsonParam : Extractor Json := .json t.json

/-- The headers. -/
def headersParam : Extractor Headers := .headers (t.part "Headers")

/-- The session. -/
def sessionParam : Extractor (Option String) := .sessionId (t.part "SessionId")

/-- The id of the request. -/
def idParam : Extractor (Option Id) := .requestId (t.part "RequestId")

/-- The method of the notifications. -/
def subscribeParam : Extractor (Option String) := .subscribeMethod (t.part "SubscribeMethod")

/-- The failure that is dealt with. -/
def failureParam : Extractor Failure := .failure (t.part "Failure")

/-- The cause of the failure that is dealt with. -/
def causeParam : Extractor (Option Failure) := .cause (t.part "Cause")

/-- The handler that failed. -/
def handlerParam : Extractor MethodInfo := .handler (t.part "MatchedHandler")

/-- What stands for the ledger among arguments. -/
def ledgerArgument : Argument := .custom "ledger" .null

/-- Access to the ledger. -/
def ledgerParam : Extractor Unit where
  source := .custom "ledger"
  typeName := t.own "Ledger"
  extract _ a :=
    if a = ledgerArgument then .value ()
    else .failed (.invalidState "Argument is not the ledger")

/-- The clock, for which any argument will do. -/
def clockParam : Extractor Unit where
  source := .custom "clock"
  typeName := "Clock"
  extract _ _ := .value ()

end TypeNames

end Switchboard.Sample
