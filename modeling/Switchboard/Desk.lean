/-
# Switchboard.Desk -- what the handling of messages works on

A desk holds the state of the application, the subscriptions and the outbox, into which every
outbound message goes, and numbers the messages that are made on it. Notifications are sent from
a desk without any request.
-/

import Switchboard.Handler.Function
import Switchboard.Message.Envelope
import Switchboard.Subscriptions

namespace Switchboard

/-! ## Outboxes -/

/-- How a channel answers. Which messages it accepts is its own affair: the answer may depend on the
message, on those that were offered before and on how many these were. -/
structure Reception where
  /-- Whether a message is accepted after others were offered. -/
  accepts : List Outbound → Outbound → Bool

/-- A channel that gives all messages one answer. -/
instance : Coe Bool Reception where
  coe answer := { accepts := fun _ _ => answer }

/-- Where outbound messages go. -/
structure Outbox where
  /-- Which messages are accepted. -/
  accepting : Reception := true
  /-- The messages that were offered, in order. -/
  offered : List Outbound := []
  /-- Those that were accepted. -/
  sent : List Outbound := []

namespace Outbox

/-- Sends a message; tells whether it was accepted. -/
def send (o : Outbox) (m : Outbound) : Bool × Outbox :=
  let accepted := o.accepting.accepts o.offered m
  (accepted, { o with
    offered := o.offered ++ [m]
    sent := if accepted then o.sent ++ [m] else o.sent })

end Outbox

/-! ## Desks -/

/-- What the handling of messages works on; `σ` is the state of the application. -/
structure Desk (σ : Type) where
  /-- The state of the application. -/
  app : σ
  /-- The subscriptions. -/
  subscriptions : Subscriptions := .empty
  /-- Where outbound messages go. -/
  outbox : Outbox := {}
  /-- The number of messages that were made here. -/
  made : Nat := 0

namespace Desk

variable {σ : Type}

/-- An id for a new message. -/
def fresh (d : Desk σ) : String × Desk σ := (generatedId d.made, { d with made := d.made + 1 })

/-- Sends a message; tells whether it was accepted. -/
def send (d : Desk σ) (m : Outbound) : Bool × Desk σ :=
  let (accepted, outbox) := d.outbox.send m
  (accepted, { d with outbox })

/-- Sends a message if there is one. -/
def sendIfSome (d : Desk σ) : Option Outbound → Desk σ
  | some m => (d.send m).2
  | none => d

/-- Binds a session to a method of notifications. -/
def bind (d : Desk σ) (session method : String) : Desk σ :=
  { d with subscriptions := (d.subscriptions.bind session method).2 }

/-! ## Notifications -/

/-- Sends a session a notification with a value, which is of the given type, as its params; tells
whether it was accepted. -/
def notify (d : Desk σ) (session method typeName : String) (value : Encoded) :
    Except BusError Bool × Desk σ :=
  match value with
  | .error reason => (.error (.badResult typeName reason), d)
  | .ok params =>
    let (id, d) := d.fresh
    match Envelope.notification session method (some params) id with
    | .error e => (.error e, d)
    | .ok m =>
      let (accepted, d) := d.send m
      (.ok accepted, d)

/-- Notifies sessions in order, up to the first error; counts what was accepted. -/
def notifyAll (d : Desk σ) (method typeName : String) (value : Encoded) (accepted : Nat) :
    List String → Except BusError Nat × Desk σ
  | [] => (.ok accepted, d)
  | session :: rest =>
    match d.notify session method typeName value with
    | (.error e, d) => (.error e, d)
    | (.ok sent, d) =>
      d.notifyAll method typeName value (if sent then accepted + 1 else accepted) rest

/-- Notifies all sessions that are bound to a method; counts what was accepted. -/
def broadcast (d : Desk σ) (method typeName : String) (value : Encoded) :
    Except BusError Nat × Desk σ :=
  d.notifyAll method typeName value 0 (d.subscriptions.sessionsFor method)

end Desk

end Switchboard
