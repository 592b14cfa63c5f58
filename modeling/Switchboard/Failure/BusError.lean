/-
# Switchboard.Failure.BusError -- what goes wrong in the machinery itself

Errors are causes; their wording is the function `BusError.message`. Three of them have a reason
of their own beneath, which `BusError.reason?` words.
-/

import Switchboard.Json.Decode

namespace Switchboard

/-- An error of the machinery around the handlers. -/
inductive BusError where
  /-- No handler is registered for a destination. -/
  | unmappedDestination (destination : String)
  /-- No argument resolver knows a parameter. -/
  | unsupportedParameter (index : Nat) (typeName : String)
  /-- No return value handler knows a return type. -/
  | unsupportedReturnType (typeName : String)
  /-- Two different handlers are mapped to one destination. -/
  | ambiguousMapping (destination existing new : String)
  /-- A header of a finished header set was to be changed. -/
  | frozenHeaders (key : String)
  /-- A request lacks a parameter. -/
  | missingParameter (name : String)
  /-- A parameter of a request has the wrong form. -/
  | badParameter (name typeName : String) (reason : Json.DecodeError)
  /-- A value cannot be made into JSON. -/
  | badResult (typeName reason : String)
  /-- A payload is no request. -/
  | invalidRequest (reason : Json.DecodeError)
  /-- A channel takes no more messages. -/
  | channelClosed (channel : String)
deriving DecidableEq, Repr

namespace BusError

/-- The name of an error. -/
def name : BusError → String
  | unmappedDestination .. => "UnmappedDestination"
  | unsupportedParameter .. => "UnsupportedParameter"
  | unsupportedReturnType .. => "UnsupportedReturnType"
  | ambiguousMapping .. => "AmbiguousMapping"
  | frozenHeaders .. => "FrozenHeaders"
  | missingParameter .. => "MissingParameter"
  | badParameter .. => "DeserParam"
  | badResult .. => "SerResult"
  | invalidRequest .. => "InvalidRequest"
  | channelClosed .. => "ChannelClosed"

/-- The wording of an error. -/
def message : BusError → String
  | unmappedDestination d => "No handler is mapped to destination '" ++ d ++ "'"
  | unsupportedParameter i t =>
    "No argument resolver supports parameter " ++ toString i ++ " of type " ++ t
  | unsupportedReturnType t => "No return value handler supports return type " ++ t
  | ambiguousMapping d existing new =>
    "Ambiguous mapping: cannot map '" ++ new ++ "' to '" ++ d ++ "', '" ++ existing ++
      "' is already mapped there"
  | frozenHeaders k => "Message headers are immutable; cannot modify header '" ++ k ++ "'"
  | missingParameter n => "Missing required parameter '" ++ n ++ "'"
  | badParameter n t _ => "Error deserializing parameter '" ++ n ++ "' as " ++ t
  | badResult t _ => "Error serializing " ++ t ++ " to JSON"
  | invalidRequest _ => "Invalid JSON-RPC request"
  | channelClosed c => "Channel '" ++ c ++ "' has been shut down"

/-- The wording of the reason beneath an error, if it has one. -/
def reason? : BusError → Option String
  | badParameter _ _ r => some r.message
  | badResult _ r => some r
  | invalidRequest r => some r.message
  | _ => none

end BusError

end Switchboard
