/-
# Switchboard.Bus.Rehearsal -- a bus with listeners, step by step

A rehearsal runs a bus by the schedule of its channels, with one queue of ready tasks for both.
Listeners subscribe to the outbound channel and note what they are given. After everything that is
done to the bus from outside the tasks get their turns until none is ready.
-/

import Switchboard.Bus.Basic
import Switchboard.Channel.Schedule

namespace Switchboard

namespace Bus

/-- What gets turns. -/
inductive Task where
  /-- A task of the inbound channel. -/
  | inbound (t : Channel.Task)
  /-- A task of the outbound channel. -/
  | outbound (t : Channel.Task)
deriving DecidableEq, Repr

/-- A bus with listeners. -/
structure Rehearsal (σ : Type) where
  /-- The bus. -/
  bus : Bus σ
  /-- The tasks that are ready. -/
  ready : ReadyQueue Task := []
  /-- The number of the latest listener. -/
  listener : Nat := 0
  /-- What the listeners were given since this was last emptied. -/
  heard : List Outbound := []

namespace Rehearsal

variable {σ : Type}

/-- Makes tasks of the inbound channel ready. -/
def wakeInbound (r : Rehearsal σ) (ts : List Channel.Task) : Rehearsal σ :=
  { r with ready := r.ready.wakeAll (ts.map .inbound) }

/-- Makes tasks of the outbound channel ready. -/
def wakeOutbound (r : Rehearsal σ) (ts : List Channel.Task) : Rehearsal σ :=
  { r with ready := r.ready.wakeAll (ts.map .outbound) }

/-- Lets something happen to the bus that may send messages, and wakes the lanes for them. -/
def working {α : Type} (r : Rehearsal σ) (f : Bus σ → α × Bus σ) : α × Rehearsal σ :=
  let (a, bus) := f r.bus
  (a, { r with bus }.wakeOutbound bus.outbound.wokenByMessages)

/-! ## Turns -/

/-- Ends a delivery to the dispatcher. -/
def finishInbound (r : Rehearsal σ) (number : Nat) (ending : Ending) : Rehearsal σ :=
  match r.bus.inbound.finish? number ending with
  | none => r
  | some inbound =>
    { r with bus := { r.bus with inbound } }.wakeInbound r.bus.inbound.wokenByPermit

/-- The turn of a task of the inbound channel. -/
def turnInbound (r : Rehearsal σ) : Channel.Task → Rehearsal σ
  | .lane id =>
    let (inbound, started) := r.bus.inbound.turnOfLane id
    { r with bus := { r.bus with inbound } }.wakeInbound started
  | .delivery n =>
    let dispatch (b : Bus σ) : Option (Except Panic Outcome) × Bus σ :=
      match b.dispatch? n with
      | some (outcome, b) => (some outcome, b)
      | none => (none, b)
    match r.working dispatch with
    | (some (.ok _), r) => r.finishInbound n .succeeded
    | (some (.error _), r) => r.finishInbound n .panicked
    | (none, r) => r

/-- The turn of a task of the outbound channel. -/
def turnOutbound (r : Rehearsal σ) : Channel.Task → Rehearsal σ
  | .lane id =>
    let (outbound, started) := r.bus.outbound.turnOfLane id
    { r with bus := { r.bus with outbound } }.wakeOutbound started
  | .delivery n =>
    match r.bus.outbound.delivery? n, r.bus.outbound.begin? n with
    | some d, some begun =>
      match begun.finish? n .succeeded with
      | some outbound =>
        { r with bus := { r.bus with outbound }, heard := r.heard ++ [d.message] }.wakeOutbound
          begun.wokenByPermit
      | none => r
    | _, _ => r

/-- Some turns, as long as the next task belongs to the outbound channel. -/
def outboundTurns : Nat → Rehearsal σ → Rehearsal σ
  | 0, r => r
  | n + 1, r =>
    match r.ready with
    | .outbound t :: ts => outboundTurns n ({ r with ready := ts }.turnOutbound t)
    | _ => r

/-- Some turns of the inbound channel, each after the turns of the outbound one that come first. -/
def turns : Nat → Rehearsal σ → Rehearsal σ
  | 0, r => r
  | n + 1, r =>
    let r := outboundTurns (r.ready.length + r.bus.outbound.turns) r
    match r.ready with
    | .inbound t :: ts => turns n ({ r with ready := ts }.turnInbound t)
    | _ => r

/-- All turns until nothing is ready. -/
def settle (r : Rehearsal σ) : Rehearsal σ :=
  turns (r.ready.length + r.bus.inbound.turns + 1) r

/-! ## From outside -/

/-- Adds a listener. -/
def listen (r : Rehearsal σ) : Nat × Rehearsal σ :=
  let (id, outbound) := r.bus.outbound.subscribe
  let r := { r with bus := { r.bus with outbound }, listener := id }
  (id, (r.wakeOutbound [.lane id]).settle)

/-- A bus that has just been built, with one listener. -/
def ofBus (bus : Bus σ) : Rehearsal σ :=
  let r : Rehearsal σ := { bus }
  (r.wakeInbound (bus.inbound.lanes.map fun l => .lane l.id)).listen.2

/-- Removes the latest listener; tells whether it was still there. -/
def unlisten (r : Rehearsal σ) : Bool × Rehearsal σ :=
  let woken := r.bus.outbound.wokenByUnsubscribing r.listener
  let (removed, outbound) := r.bus.outbound.unsubscribe r.listener
  (removed, ({ r with bus := { r.bus with outbound } }.wakeOutbound woken).settle)

/-- Receives a payload and leaves its handling for later. -/
def enqueue (r : Rehearsal σ) (session : String) (payload : Json) :
    Except BusError Bool × Rehearsal σ :=
  let (accepted, bus) := r.bus.receive session payload
  (accepted, { r with bus }.wakeInbound bus.inbound.wokenByMessages)

/-- Receives a payload. -/
def receive (r : Rehearsal σ) (session : String) (payload : Json) :
    Except BusError Bool × Rehearsal σ :=
  let (accepted, r) := r.enqueue session payload
  (accepted, r.settle)

/-- Receives payloads before any of them is handled; counts those accepted. -/
def receiveAll (r : Rehearsal σ) (session : String) (payloads : List Json) : Nat × Rehearsal σ :=
  let (n, r) := payloads.foldl (fun (n, r) p =>
    let (accepted, r) := r.enqueue session p
    (match accepted with
      | .ok true => n + 1
      | _ => n, r)) (0, r)
  (n, r.settle)

/-- Lets something happen to the bus. -/
def act {α : Type} (r : Rehearsal σ) (f : Bus σ → α × Bus σ) : α × Rehearsal σ :=
  let (a, r) := r.working f
  (a, r.settle)

/-- Waits until a shutdown can go on, at most as long as its time allows, and goes on with it. -/
def awaitShutdown (r : Rehearsal σ) (i : Nat) (limit : Option Duration)
    (lanes : Bus σ → List Task) : Rehearsal σ :=
  let expire (r : Rehearsal σ) : Rehearsal σ :=
    match r.bus.expire? i with
    | some bus => { r with bus, ready := r.ready.wakeAll (lanes r.bus) }
    | none => r
  match r.bus.advance? i with
  | some bus => { r with bus }
  | none =>
    if limit = some ⟨0⟩ then expire r
    else
      let r := r.settle
      match r.bus.advance? i with
      | some bus => { r with bus }
      | none => expire r

/-- Shuts the bus down. -/
def shutdown (r : Rehearsal σ) : Rehearsal σ :=
  let i := r.bus.shutdowns.length
  let woken := r.bus.inbound.idleTasks
  let r := { r with bus := r.bus.beginShutdown }.wakeInbound woken
  let woken := r.bus.outbound.idleTasks
  let r := r.awaitShutdown i r.bus.inbound.config.shutdownTimeout fun b =>
    b.inbound.wokenByCancelling.map .inbound
  let r := r.wakeOutbound woken
  let r := r.awaitShutdown i r.bus.outbound.config.shutdownTimeout fun b =>
    b.outbound.wokenByCancelling.map .outbound
  r.settle

end Rehearsal

end Bus

end Switchboard
