/-
# Switchboard.Reply -- what becomes of the value that a handler returns

The first return handler that supports the type of a value deals with it. Of the library's own,
one acknowledges subscriptions and binds the session, the other sends any value as a response.
-/

import Switchboard.Desk

namespace Switchboard

/-- Deals with returned values of some types; `σ` is the state of the application. -/
structure ReturnHandler (σ : Type) where
  /-- Whether it knows a type. -/
  supports : ReturnType → Bool
  /-- Deals with a value that was returned for a request. -/
  handle : Json → ReturnType → RequestMessage → Desk σ → Attempt BusError Unit × Desk σ

namespace ReturnHandler

variable {σ : Type}

/-- Sends a value as the response to a request. -/
def respond (value : Json) (type : ReturnType) (subscribeMethod : Option String)
    (request : RequestMessage) (d : Desk σ) : Attempt BusError Unit × Desk σ :=
  let (id, d) := d.fresh
  let sendMethod := type.responseMethod.getD request.payload.method
  match Envelope.response request value sendMethod subscribeMethod id with
  | .error e => (.failed e, d)
  | .ok reply => (.value (), d.sendIfSome reply)

/-- Sends every value as a response. -/
def response : ReturnHandler σ where
  supports _ := true
  handle value type request d := respond value type none request d

/-- Binds the session of a request to the notifications of a type, if both are there. -/
def bindSession (type : ReturnType) (request : RequestMessage) (d : Desk σ) : Desk σ :=
  match request.headers.sessionId?, type.subscribeMethod with
  | some session, some method => d.bind session method
  | _, _ => d

/-- Acknowledges a subscription with the value and binds the session to its notifications. -/
def subscribe : ReturnHandler σ where
  supports type := type.subscribeMethod.isSome
  handle value type request d :=
    respond value type type.subscribeMethod request (bindSession type request d)

/-- Whether any of some return handlers supports a type. -/
def supported (hs : List (ReturnHandler σ)) (type : ReturnType) : Bool :=
  hs.any fun h => h.supports type

/-- Deals with a value by the first return handler that supports its type. -/
def handleBy (hs : List (ReturnHandler σ)) (value : Json) (type : ReturnType)
    (request : RequestMessage) (d : Desk σ) : Attempt BusError Unit × Desk σ :=
  match hs.find? fun h => h.supports type with
  | some h => h.handle value type request d
  | none => (.failed (.unsupportedReturnType type.typeName), d)

end ReturnHandler

end Switchboard
