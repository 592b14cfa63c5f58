/-
# Switchboard.Channel.Basic -- channels as machines of atomic steps

A channel copies every message into a queue of each subscriber, its lane. A lane takes one message
at a time off its queue, gets in line for a permit, takes it when its turn comes and hands the
message over to a delivery, which keeps the permit until it ends, however it ends; all lanes share
the permits.

Lanes do not wait for each other between these steps, and a channel may be given up between any two
of them. A lane that waits, for a message or for a permit, then goes away; one that has its permit
already still hands its message over. To see whether the channel was given up is no step of its own
but the first part of taking a message, of getting in line and of taking a permit.

Everything that happens to a channel is an `Event`, and `Channel.after?` is the machine: the state
after an event, or none where the event cannot happen. Which of the possible events happens next
is left open here.
-/

import Switchboard.Attempt
import Switchboard.Config

namespace Switchboard

/-! ## States -/

/-- A message that was taken off a queue and not handed over yet. -/
structure Taken (μ : Type) where
  /-- The message. -/
  message : μ
  /-- Whether there is a permit for it. -/
  permitted : Bool := false
deriving DecidableEq, Repr

/-- The queue of a subscriber. -/
structure Lane (μ : Type) where
  /-- The number of the subscriber. -/
  id : Nat
  /-- Whether new messages come in. -/
  subscribed : Bool := true
  /-- The messages that wait, the oldest first. -/
  queue : List μ := []
  /-- The message that was taken off the queue last, until it is handed over. -/
  held : Option (Taken μ) := none
deriving DecidableEq, Repr

/-- A message on its way to a subscriber; it holds a permit. -/
structure Delivery (μ : Type) where
  /-- The number of the delivery. -/
  number : Nat
  /-- The number of the subscriber. -/
  lane : Nat
  /-- The message. -/
  message : μ
  /-- Whether the subscriber has begun to handle the message. -/
  begun : Bool := false
deriving DecidableEq, Repr

/-- How a delivery ends. -/
inductive Ending where
  /-- The subscriber handled the message. -/
  | succeeded
  /-- The subscriber gave an error. -/
  | failed
  /-- The subscriber panicked. -/
  | panicked
deriving DecidableEq, Repr

/-- A channel for messages of type `μ`. -/
structure Channel (μ : Type) where
  /-- The settings. -/
  config : ChannelConfig
  /-- How many permits nobody holds. -/
  free : Nat := config.permits
  /-- The lanes of all subscribers, and of former ones that still have something to do, in the
  order of their subscription. -/
  lanes : List (Lane μ) := []
  /-- The lanes that wait for a permit, in the order of their arrival. -/
  line : List Nat := []
  /-- The deliveries that run, in the order in which they started. -/
  running : List (Delivery μ) := []
  /-- How many deliveries have started so far. -/
  started : Nat := 0
  /-- The number of the next subscriber. -/
  nextId : Nat := 1
  /-- Whether the channel was shut down. -/
  closed : Bool := false
  /-- Whether what is queued was given up. -/
  cancelled : Bool := false
deriving DecidableEq

namespace Lane

variable {μ : Type}

/-- Adds a message, if the lane still takes messages. -/
def push (l : Lane μ) (m : μ) : Lane μ :=
  if l.subscribed then { l with queue := l.queue ++ [m] } else l

/-- Takes no new messages any more. -/
def detach (l : Lane μ) : Lane μ := { l with subscribed := false }

/-- Whether nothing is left and nothing more can come. -/
def isSpent (l : Lane μ) : Bool := !l.subscribed && l.queue.isEmpty && l.held.isNone

/-- Whether it waits for a permit. -/
def isWaiting (l : Lane μ) : Bool := l.held.any fun t => !t.permitted

/-- Whether it has a permit. -/
def isPermitted (l : Lane μ) : Bool := l.held.any Taken.permitted

end Lane

namespace Channel

variable {μ : Type}

/-- A channel without subscribers. -/
def new (config : ChannelConfig) : Channel μ := { config }

/-- How many permits there can be at most. -/
def maxPermits : Nat := Nat.pow 2 61 - 1

/-- The panic that more permits than possible bring about. -/
def tooManyPermits : Panic :=
  .text ("a semaphore may not have more than MAX_PERMITS permits (" ++ toString maxPermits ++ ")")

/-- A channel without subscribers, if there can be as many permits as the settings ask for. -/
def create (config : ChannelConfig) : Except Panic (Channel μ) :=
  if config.permits ≤ maxPermits then .ok (new config) else .error tooManyPermits

/-- The number of subscribers. -/
def subscriberCount (c : Channel μ) : Nat := (c.lanes.filter Lane.subscribed).length

/-- Whether a message would be accepted. -/
def accepts (c : Channel μ) : Bool := !c.closed && c.lanes.any Lane.subscribed

/-- The lane of a subscriber. -/
def lane? (c : Channel μ) (id : Nat) : Option (Lane μ) := c.lanes.find? fun l => l.id = id

/-- A running delivery. -/
def delivery? (c : Channel μ) (number : Nat) : Option (Delivery μ) :=
  c.running.find? fun d => d.number = number

/-- Changes the lane of a subscriber. -/
def mapLane (c : Channel μ) (id : Nat) (f : Lane μ → Lane μ) : Channel μ :=
  { c with lanes := c.lanes.map fun l => if l.id = id then f l else l }

/-- Whether all lanes are gone and no delivery runs. -/
def isDrained (c : Channel μ) : Bool := c.lanes.isEmpty && c.running.isEmpty

/-- Whether a call that shuts the channel down may return. The call that closed the channel waits
until everything is delivered (`waits`); one that found it closed does not. -/
def mayReturn (c : Channel μ) (waits : Bool) : Bool := !waits || c.isDrained

/-- Whether a lane that waits in line may take a permit: nobody who came before it is short of
one. -/
def isGranted (c : Channel μ) (id : Nat) : Bool :=
  match c.line.idxOf? id with
  | some i => i < c.free
  | none => false

/-! ## What publishers and subscribers do -/

/-- Sends a message; tells whether it was accepted. -/
def send (c : Channel μ) (m : μ) : Bool × Channel μ :=
  if c.accepts then (true, { c with lanes := c.lanes.map (·.push m) }) else (false, c)

/-- Subscribes; gives the number of the subscriber. A channel that was shut down has no place for
subscribers. -/
def subscribe (c : Channel μ) : Nat × Channel μ :=
  let lanes := if c.closed then c.lanes else c.lanes ++ [{ id := c.nextId }]
  (c.nextId, { c with lanes, nextId := c.nextId + 1 })

/-- Ends a subscription; tells whether there was one. What is queued is still delivered. -/
def unsubscribe (c : Channel μ) (id : Nat) : Bool × Channel μ :=
  (c.lanes.any fun l => l.id = id && l.subscribed, c.mapLane id Lane.detach)

/-- Takes no more messages; tells whether the channel was still open. -/
def close (c : Channel μ) : Bool × Channel μ :=
  if c.closed then (false, c)
  else (true, { c with closed := true, lanes := c.lanes.map Lane.detach })

/-- Gives up what is queued. -/
def cancel (c : Channel μ) : Channel μ := { c with cancelled := true }

/-! ## What happens inside -/

/-- A lane takes the oldest message off its queue. -/
def take? (c : Channel μ) (id : Nat) : Option (Channel μ) :=
  if c.cancelled then none
  else
    match c.lane? id with
    | some { queue := m :: rest, held := none, .. } =>
      some (c.mapLane id fun l => { l with queue := rest, held := some { message := m } })
    | _ => none

/-- A lane that waits for a permit gets in line. -/
def lineUp? (c : Channel μ) (id : Nat) : Option (Channel μ) :=
  if c.cancelled || id ∈ c.line then none
  else
    match c.lane? id with
    | some l => if l.isWaiting then some { c with line := c.line ++ [id] } else none
    | none => none

/-- A lane whose turn it is takes a permit for the message that it holds. -/
def acquire? (c : Channel μ) (id : Nat) : Option (Channel μ) :=
  if c.cancelled || !c.isGranted id then none
  else
    match c.lane? id with
    | some { held := some { message := m, permitted := false }, .. } =>
      let c := c.mapLane id fun l => { l with held := some { message := m, permitted := true } }
      some { c with free := c.free - 1, line := c.line.erase id }
    | _ => none

/-- A lane that has a permit hands its message over to a delivery, which gets the permit. Whether
what is queued was given up meanwhile makes no difference. -/
def handOver? (c : Channel μ) (id : Nat) : Option (Channel μ) :=
  match c.lane? id with
  | some { held := some { message := m, permitted := true }, .. } =>
    let c := c.mapLane id fun l => { l with held := none }
    some { c with
      running := c.running ++ [{ number := c.started, lane := id, message := m }]
      started := c.started + 1 }
  | _ => none

/-- A subscriber begins to handle a message. -/
def begin? (c : Channel μ) (number : Nat) : Option (Channel μ) :=
  match c.delivery? number with
  | some { begun := false, .. } =>
    some { c with
      running := c.running.map fun d => if d.number = number then { d with begun := true } else d }
  | _ => none

/-- A delivery ends and gives its permit back; it makes no difference how it ends. -/
def finish? (c : Channel μ) (number : Nat) (_ending : Ending) : Option (Channel μ) :=
  match c.delivery? number with
  | some { begun := true, .. } =>
    some { c with
      free := c.free + 1
      running := c.running.filter fun d => d.number ≠ number }
  | _ => none

/-- A lane that has nothing more to do, or was given up while it waits, goes away with all that it
holds. -/
def leave? (c : Channel μ) (id : Nat) : Option (Channel μ) :=
  match c.lane? id with
  | some l =>
    if c.cancelled && !l.isPermitted || l.isSpent then
      some { c with lanes := c.lanes.filter fun l => l.id ≠ id, line := c.line.erase id }
    else none
  | none => none

end Channel

/-! ## The machine -/

/-- What can happen to a channel. -/
inductive Channel.Event (μ : Type) where
  /-- A message is sent. -/
  | send (m : μ)
  /-- Somebody subscribes. -/
  | subscribe
  /-- A subscriber leaves. -/
  | unsubscribe (id : Nat)
  /-- A lane takes a message off its queue. -/
  | take (id : Nat)
  /-- A lane gets in line for a permit. -/
  | lineUp (id : Nat)
  /-- A lane takes a permit. -/
  | acquire (id : Nat)
  /-- A lane hands its message over to a delivery, which starts. -/
  | handOver (id : Nat)
  /-- A subscriber begins to handle a message. -/
  | begin (number : Nat)
  /-- A delivery ends. -/
  | finish (number : Nat) (ending : Ending)
  /-- A lane goes away. -/
  | leave (id : Nat)
  /-- The channel is shut down. -/
  | close
  /-- A shutdown has waited long enough. -/
  | cancel
deriving DecidableEq, Repr

namespace Channel

variable {μ : Type}

/-- The state after an event, if the event can happen. -/
def after? (c : Channel μ) : Event μ → Option (Channel μ)
  | .send m => some (c.send m).2
  | .subscribe => some c.subscribe.2
  | .unsubscribe id => some (c.unsubscribe id).2
  | .take id => c.take? id
  | .lineUp id => c.lineUp? id
  | .acquire id => c.acquire? id
  | .handOver id => c.handOver? id
  | .begin n => c.begin? n
  | .finish n ending => c.finish? n ending
  | .leave id => c.leave? id
  | .close => some c.close.2
  | .cancel => if c.closed then some c.cancel else none

/-- The state after some events, if they can happen in this order. -/
def run? (c : Channel μ) : List (Event μ) → Option (Channel μ)
  | [] => some c
  | e :: es => (c.after? e).bind fun c => c.run? es

end Channel

end Switchboard
