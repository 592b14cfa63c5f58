/-
# Switchboard.Config -- settings of channels and of the bus

Every setting has a default, so a configuration may leave out any of them. The two sections of a
bus configuration have default names of their own, which count where a section names none.
-/

import Switchboard.Duration
import Switchboard.Json.Decode

namespace Switchboard

/-! ## Channels -/

/-- The settings of a channel. -/
structure ChannelConfig where
  /-- The name of the channel. -/
  name : String := "channel"
  /-- How many messages are delivered at the same time, at least one. -/
  maxConcurrency : UInt64 := 16
  /-- How long a shutdown waits for deliveries; without a limit if absent. -/
  shutdownTimeout : Option Duration := some (.ofSeconds 5)
deriving DecidableEq

namespace ChannelConfig

/-- The default settings under a name. -/
def named (name : String) : ChannelConfig := { name }

/-- How many deliveries run at the same time at most. -/
def permits (c : ChannelConfig) : Nat := max 1 c.maxConcurrency.toNat

/-- The fields, in the order in which they are written. -/
def fields (c : ChannelConfig) : List (String × Json) :=
  [("name", .string c.name), ("max_concurrency", .ofNat c.maxConcurrency.toNat),
    ("shutdown_timeout", .textOrNull (c.shutdownTimeout.map Duration.text))]

/-- The JSON value. -/
def toJson (c : ChannelConfig) : Json := Json.ofFields c.fields

/-- The text. -/
def wire (c : ChannelConfig) : String := (Json.object c.fields).render

/-- Decodes a name. -/
def decodeName (d : Json.Doc) : Except Json.DecodeError String := d.asText "a string"

/-- Decodes a number of deliveries. -/
def decodeConcurrency (d : Json.Doc) : Except Json.DecodeError UInt64 :=
  (d.asInteger 0 (UInt64.size - 1) "usize").map fun n => UInt64.ofNat n.toNat

/-- Decodes a duration. -/
def decodeDuration (d : Json.Doc) : Except Json.DecodeError Duration := do
  let s ← d.asText "a duration"
  match Duration.ofText? s with
  | some t => .ok t
  | none => .error (.wrongValue (.string s) "a duration")

/-- Decodes a time limit. -/
def decodeTimeout (d : Json.Doc) : Except Json.DecodeError (Option Duration) :=
  d.asOption decodeDuration

/-- The fields that are read so far. -/
structure Slots where
  /-- The name. -/
  name : Json.Slot String := none
  /-- The number of deliveries. -/
  maxConcurrency : Json.Slot UInt64 := none
  /-- The time limit. -/
  shutdownTimeout : Json.Slot (Option Duration) := none

/-- Reads one field. Fields with other names do not matter. -/
def Slots.read (s : Slots) (name : String) (d : Json.Doc) : Except Json.DecodeError Slots :=
  match name with
  | "name" => (s.name.fill name decodeName d).map fun v => { s with name := v }
  | "max_concurrency" =>
    (s.maxConcurrency.fill name decodeConcurrency d).map fun v => { s with maxConcurrency := v }
  | "shutdown_timeout" =>
    (s.shutdownTimeout.fill name decodeTimeout d).map fun v => { s with shutdownTimeout := v }
  | _ => d.ignore.map fun _ => s

/-- The settings, with those of `base` where none is given. -/
def Slots.finish (s : Slots) (base : ChannelConfig) : ChannelConfig :=
  ⟨s.name.getD base.name, s.maxConcurrency.getD base.maxConcurrency,
    s.shutdownTimeout.getD base.shutdownTimeout⟩

/-- Decodes the settings of a channel. -/
def decode (d : Json.Doc) : Except Json.DecodeError ChannelConfig :=
  match d with
  | .object fields close => do
    let s ← Json.foldFields Slots.read {} fields
    close.endFields
    .ok (s.finish {})
  | .array items close => do
    let (name, rest) ← Json.nextItem decodeName close items
    let (maxConcurrency, rest) ← Json.nextItem decodeConcurrency close rest
    let (shutdownTimeout, rest) ← Json.nextItem decodeTimeout close rest
    close.endItems items.length rest
    .ok (Slots.finish ⟨name, maxConcurrency, shutdownTimeout⟩ {})
  | d => .error (d.mismatch "struct ChannelConfig")

end ChannelConfig

/-! ## Sections -/

namespace ChannelSection

/-- The fields of a section that are read so far. -/
structure Slots where
  /-- The name, which may be `null`. -/
  name : Json.Slot (Option String) := none
  /-- The other fields, which are looked at in the end. -/
  others : List (String × Json.Doc) := []

/-- Reads one field. -/
def Slots.read (s : Slots) (name : String) (d : Json.Doc) : Except Json.DecodeError Slots :=
  if name = "name" then
    (s.name.fill name (·.asOption ChannelConfig.decodeName) d).map fun v => { s with name := v }
  else d.buffer.map fun _ => { s with others := s.others ++ [(name, d)] }

/-- Decodes the section of a channel with a default name of its own. -/
def decode (defaultName : String) (d : Json.Doc) : Except Json.DecodeError ChannelConfig :=
  match d with
  | .object fields close => do
    let s ← Json.foldFields Slots.read {} fields
    close.endFields
    let settings ← Json.foldFields ChannelConfig.Slots.read {} s.others
    .ok { settings.finish {} with name := (s.name.getD none).getD defaultName }
  | d => .error (d.mismatch "struct Section")

end ChannelSection

/-! ## The bus -/

/-- The settings of the two channels of a bus. -/
structure BusConfig where
  /-- The channel that carries requests to the dispatcher. -/
  inbound : ChannelConfig := .named "clientInboundChannel"
  /-- The channel that carries responses and notifications away. -/
  outbound : ChannelConfig := .named "clientOutboundChannel"
deriving DecidableEq

namespace BusConfig

/-- The fields, in the order in which they are written; `asObject` makes the inner objects. -/
def fieldsWith (asObject : List (String × Json) → Json) (c : BusConfig) : List (String × Json) :=
  [("inbound", asObject c.inbound.fields), ("outbound", asObject c.outbound.fields)]

/-- The JSON value. -/
def toJson (c : BusConfig) : Json := Json.ofFields (c.fieldsWith Json.ofFields)

/-- The text. -/
def wire (c : BusConfig) : String := (Json.object (c.fieldsWith .object)).render

/-- Decodes the section of the inbound channel. -/
def decodeInbound (d : Json.Doc) : Except Json.DecodeError ChannelConfig :=
  ChannelSection.decode ({} : BusConfig).inbound.name d

/-- Decodes the section of the outbound channel. -/
def decodeOutbound (d : Json.Doc) : Except Json.DecodeError ChannelConfig :=
  ChannelSection.decode ({} : BusConfig).outbound.name d

/-- The fields that are read so far. -/
structure Slots where
  /-- The inbound channel. -/
  inbound : Json.Slot ChannelConfig := none
  /-- The outbound channel. -/
  outbound : Json.Slot ChannelConfig := none

/-- Reads one field. Fields with other names do not matter. -/
def Slots.read (s : Slots) (name : String) (d : Json.Doc) : Except Json.DecodeError Slots :=
  match name with
  | "inbound" => (s.inbound.fill name decodeInbound d).map fun v => { s with inbound := v }
  | "outbound" => (s.outbound.fill name decodeOutbound d).map fun v => { s with outbound := v }
  | _ => d.ignore.map fun _ => s

/-- The settings, with the defaults where none is given. -/
def Slots.finish (s : Slots) : BusConfig :=
  ⟨s.inbound.getD ({} : BusConfig).inbound, s.outbound.getD ({} : BusConfig).outbound⟩

/-- Decodes the settings of a bus. -/
def decode (d : Json.Doc) : Except Json.DecodeError BusConfig :=
  match d with
  | .object fields close => do
    let s ← Json.foldFields Slots.read {} fields
    close.endFields
    .ok s.finish
  | .array items close => do
    let (inbound, rest) ← Json.nextItem decodeInbound close items
    let (outbound, rest) ← Json.nextItem decodeOutbound close rest
    close.endItems items.length rest
    .ok (Slots.finish ⟨inbound, outbound⟩)
  | d => .error (d.mismatch "struct BusConfig")

end BusConfig

end Switchboard
