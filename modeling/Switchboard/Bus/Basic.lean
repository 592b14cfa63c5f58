/-
# Switchboard.Bus.Basic -- the bus as a machine of atomic steps

A bus receives payloads on its inbound channel, whose only subscriber is the dispatcher, and sends
what comes of them, and notifications, on its outbound channel. A shutdown closes the inbound
channel first, waits for it, and then does the same with the outbound one; several shutdowns may
be under way at once, and only the first to close a channel waits for it.

`Bus.after?` is the machine, as `Channel.after?` is for one channel. Dispatching a message is one
step: what it binds and sends happens at one moment while its delivery runs.
-/

import Switchboard.Channel.Basic
import Switchboard.Dispatch

namespace Switchboard

/-! ## States -/

/-- How far a shutdown has come. -/
inductive Shutdown where
  /-- The inbound channel is closed; `waits` tells whether this shutdown waits for it. -/
  | closingInbound (waits : Bool)
  /-- The outbound channel is closed, too; `waits` tells whether this shutdown waits for it. -/
  | closingOutbound (waits : Bool)
  /-- The shutdown is over. -/
  | over
deriving DecidableEq, Repr

/-- A bus; `σ` is the state of the application. -/
structure Bus (σ : Type) where
  /-- What messages are dispatched by. -/
  dispatcher : Dispatcher σ
  /-- What the dispatcher works on and remembers. -/
  state : Dispatcher.State σ
  /-- The channel on which payloads come in. -/
  inbound : Channel Inbound
  /-- The channel on which messages go out. -/
  outbound : Channel Outbound
  /-- The shutdowns that were called for so far. -/
  shutdowns : List Shutdown := []

namespace Bus

variable {σ : Type}

/-- A bus with the given settings, handlers and parts of the application, its dispatcher already
subscribed. It cannot be built if two handlers are rivals for a destination. -/
def build (config : BusConfig) (mapping : Mapping σ) (groups : List (Group σ))
    (argumentResolvers : List (ArgumentResolver σ)) (returnHandlers : List (ReturnHandler σ))
    (app : σ) : Except (BusError ⊕ Panic) (Bus σ) :=
  match Registry.ofGroups mapping groups with
  | .error e => .error (.inl e)
  | .ok registry =>
    match Channel.create config.inbound, Channel.create config.outbound with
    | .error p, _ => .error (.inr p)
    | _, .error p => .error (.inr p)
    | .ok inbound, .ok outbound =>
      .ok {
        dispatcher := .new registry argumentResolvers returnHandlers
        state := { desk := { app } }
        inbound := inbound.subscribe.2
        outbound }

/-! ## What goes out -/

/-- Sends messages on the outbound channel, in order. -/
def sendAll (b : Bus σ) (ms : List Outbound) : Bus σ :=
  { b with outbound := ms.foldl (fun c m => (c.send m).2) b.outbound }

/-- Lets something happen on the dispatcher's desk and sends what it puts into the outbox, which
accepts messages just when the outbound channel does. -/
def work {α : Type} (b : Bus σ) (f : Dispatcher.State σ → α × Dispatcher.State σ) : α × Bus σ :=
  let outbox : Outbox := { accepting := b.outbound.accepts }
  let (a, s) := f { b.state with desk := { b.state.desk with outbox } }
  (a, { b with state := { s with desk := { s.desk with outbox := {} } } }.sendAll
    s.desk.outbox.sent)

/-- Sends one session a notification. -/
def notify (b : Bus σ) (session method typeName : String) (value : Encoded) :
    Except BusError Bool × Bus σ :=
  b.work fun s => s.onDesk fun d => d.notify session method typeName value

/-- Sends a notification to all sessions that are bound to its method. -/
def broadcast (b : Bus σ) (method typeName : String) (value : Encoded) :
    Except BusError Nat × Bus σ :=
  b.work fun s => s.onDesk fun d => d.broadcast method typeName value

/-! ## What comes in -/

/-- Receives a payload on a session; tells whether it was accepted. -/
def receive (b : Bus σ) (session : String) (payload : Json) : Except BusError Bool × Bus σ :=
  if b.inbound.closed then (.error (.channelClosed b.inbound.config.name), b)
  else
    let (id, desk) := b.state.desk.fresh
    let b := { b with state := { b.state with desk } }
    match HeaderDraft.new.setSessionId session with
    | .error e => (.error e, b)
    | .ok draft =>
      let (accepted, inbound) := b.inbound.send ⟨payload, draft.finish id⟩
      (.ok accepted, { b with inbound })

/-- The dispatcher begins to handle a message that is being delivered to it. -/
def dispatch? (b : Bus σ) (number : Nat) : Option (Except Panic Outcome × Bus σ) :=
  match b.inbound.delivery? number, b.inbound.begin? number with
  | some d, some inbound => some ({ b with inbound }.work (b.dispatcher.dispatch d.message))
  | _, _ => none

/-- Works on the subscriptions. -/
def onSubscriptions {α : Type} (b : Bus σ) (f : Subscriptions → α × Subscriptions) : α × Bus σ :=
  let (a, subscriptions) := f b.state.desk.subscriptions
  (a, { b with state := { b.state with desk := { b.state.desk with subscriptions } } })

/-- Forgets all subscriptions of a session; tells how many there were. -/
def endSession (b : Bus σ) (session : String) : Nat × Bus σ :=
  b.onSubscriptions (·.removeSession session)

/-! ## Shutting down -/

/-- Begins a shutdown by closing the inbound channel. -/
def beginShutdown (b : Bus σ) : Bus σ :=
  let (first, inbound) := b.inbound.close
  { b with inbound, shutdowns := b.shutdowns ++ [.closingInbound first] }

/-- Goes on with a shutdown that has nothing to wait for any more. -/
def advance? (b : Bus σ) (i : Nat) : Option (Bus σ) :=
  match b.shutdowns[i]? with
  | some (.closingInbound waits) =>
    if b.inbound.mayReturn waits then
      let (first, outbound) := b.outbound.close
      some { b with outbound, shutdowns := b.shutdowns.set i (.closingOutbound first) }
    else none
  | some (.closingOutbound waits) =>
    if b.outbound.mayReturn waits then some { b with shutdowns := b.shutdowns.set i .over }
    else none
  | _ => none

/-- The time of a shutdown that waits for a channel runs out: what is queued there is given up. -/
def expire? (b : Bus σ) (i : Nat) : Option (Bus σ) :=
  match b.shutdowns[i]? with
  | some (.closingInbound true) =>
    if b.inbound.config.shutdownTimeout.isNone then none
    else
      let (first, outbound) := b.outbound.close
      some { b with
        inbound := b.inbound.cancel
        outbound
        shutdowns := b.shutdowns.set i (.closingOutbound first) }
  | some (.closingOutbound true) =>
    if b.outbound.config.shutdownTimeout.isNone then none
    else some { b with outbound := b.outbound.cancel, shutdowns := b.shutdowns.set i .over }
  | _ => none

end Bus

/-! ## The machine -/

/-- What happens inside a channel by itself. -/
inductive Channel.Move where
  /-- A lane takes a message off its queue. -/
  | take (id : Nat)
  /-- A lane gets in line for a permit. -/
  | lineUp (id : Nat)
  /-- A lane takes a permit. -/
  | acquire (id : Nat)
  /-- A lane hands its message over to a delivery, which starts. -/
  | handOver (id : Nat)
  /-- A delivery ends. -/
  | finish (number : Nat) (ending : Ending)
  /-- A lane goes away. -/
  | leave (id : Nat)
deriving DecidableEq, Repr

/-- A move as an event. -/
def Channel.Move.event {μ : Type} : Channel.Move → Channel.Event μ
  | take id => .take id
  | lineUp id => .lineUp id
  | acquire id => .acquire id
  | handOver id => .handOver id
  | finish n ending => .finish n ending
  | leave id => .leave id

/-- What can happen to a bus. -/
inductive Bus.Event where
  /-- A payload is received. -/
  | receive (session : String) (payload : Json)
  /-- Something happens inside the inbound channel. -/
  | inbound (move : Channel.Move)
  /-- The dispatcher handles a message. -/
  | dispatch (number : Nat)
  /-- Something happens inside the outbound channel. -/
  | outbound (move : Channel.Move)
  /-- A subscriber of the outbound channel begins to handle a message. -/
  | listen (number : Nat)
  /-- Somebody subscribes to the outbound channel. -/
  | subscribe
  /-- A subscriber of the outbound channel leaves. -/
  | unsubscribe (id : Nat)
  /-- A session is notified. -/
  | notify (session method : String) (params : Json)
  /-- All sessions that are bound to a method are notified. -/
  | broadcast (method : String) (params : Json)
  /-- A session ends. -/
  | endSession (session : String)
  /-- A shutdown is called for. -/
  | shutdown
  /-- A shutdown goes on. -/
  | advance (i : Nat)
  /-- The time of a shutdown runs out. -/
  | expire (i : Nat)
deriving DecidableEq

namespace Bus

variable {σ : Type}

/-- The state after an event, if the event can happen. -/
def after? (b : Bus σ) : Event → Option (Bus σ)
  | .receive session payload => some (b.receive session payload).2
  | .inbound move => (b.inbound.after? move.event).map fun c => { b with inbound := c }
  | .dispatch n => (b.dispatch? n).map Prod.snd
  | .outbound move => (b.outbound.after? move.event).map fun c => { b with outbound := c }
  | .listen n => (b.outbound.begin? n).map fun c => { b with outbound := c }
  | .subscribe => some { b with outbound := b.outbound.subscribe.2 }
  | .unsubscribe id => some { b with outbound := (b.outbound.unsubscribe id).2 }
  | .notify session method params => some (b.notify session method "" (.ok params)).2
  | .broadcast method params => some (b.broadcast method "" (.ok params)).2
  | .endSession session => some (b.endSession session).2
  | .shutdown => some b.beginShutdown
  | .advance i => b.advance? i
  | .expire i => b.expire? i

/-- The state after some events, if they can happen in this order. -/
def run? (b : Bus σ) : List Event → Option (Bus σ)
  | [] => some b
  | e :: es => (b.after? e).bind fun b => b.run? es

end Bus

end Switchboard
