/-
# Switchboard.Channel.Rehearsal -- a channel with subscribers that follow a script

A rehearsal runs a channel by its schedule. Each subscriber notes every message that it is given
and then ends the delivery in its own way, or waits at the gate first. The gate is opened from
outside, for so many deliveries at a time.
-/

import Switchboard.Channel.Schedule

namespace Switchboard

/-- What a subscriber does after it noted a message. -/
inductive Conduct where
  /-- It ends the delivery. -/
  | ends (ending : Ending)
  /-- It waits at the gate and then handles the message. -/
  | waits
deriving DecidableEq, Repr

/-- A gate that lets deliveries pass, in the order of their arrival. -/
structure Gate where
  /-- For how many deliveries it is open. -/
  openFor : Nat := 0
  /-- The deliveries that wait. -/
  waiting : List Nat := []
deriving DecidableEq, Repr

/-- A channel with subscribers that follow a script. -/
structure Rehearsal (μ : Type) where
  /-- The channel. -/
  channel : Channel μ
  /-- The tasks that are ready. -/
  ready : ReadyQueue Channel.Task := []
  /-- What each subscriber does. -/
  conduct : List (Nat × Conduct) := []
  /-- The gate. -/
  gate : Gate := {}
  /-- The messages that subscribers were given, each with the number of the subscriber. -/
  noted : List (Nat × μ) := []
  /-- The messages that subscribers have handled. -/
  handled : List (Nat × μ) := []

namespace Rehearsal

variable {μ : Type}

/-- A rehearsal of a channel. -/
def ofChannel (channel : Channel μ) : Rehearsal μ := { channel }

/-- Makes tasks ready. -/
def wake (r : Rehearsal μ) (ts : List Channel.Task) : Rehearsal μ :=
  { r with ready := r.ready.wakeAll ts }

/-! ## Turns -/

/-- Ends a delivery. -/
def finish (r : Rehearsal μ) (d : Delivery μ) (ending : Ending) : Rehearsal μ :=
  match r.channel.finish? d.number ending with
  | none => r
  | some c =>
    let r := if ending = .succeeded then { r with handled := r.handled ++ [(d.lane, d.message)] }
      else r
    { r with channel := c }.wake r.channel.wokenByPermit

/-- The first turn of a delivery. -/
def begin (r : Rehearsal μ) (d : Delivery μ) : Rehearsal μ :=
  match r.channel.begin? d.number with
  | none => r
  | some c =>
    let r := { r with channel := c, noted := r.noted ++ [(d.lane, d.message)] }
    match r.conduct.lookup d.lane with
    | some (.ends ending) => r.finish d ending
    | some .waits =>
      match r.gate.openFor with
      | n + 1 => { r with gate := { r.gate with openFor := n } }.finish d .succeeded
      | 0 => { r with gate := { r.gate with waiting := r.gate.waiting ++ [d.number] } }
    | none => r.finish d .succeeded

/-- The turn of a task. -/
def turn (r : Rehearsal μ) : Channel.Task → Rehearsal μ
  | .lane id =>
    let (c, started) := r.channel.turnOfLane id
    { r with channel := c }.wake started
  | .delivery n =>
    match r.channel.delivery? n with
    | none => r
    | some d => if d.begun then r.finish d .succeeded else r.begin d

/-- Some turns, as long as tasks are ready. -/
def turns : Nat → Rehearsal μ → Rehearsal μ
  | 0, r => r
  | n + 1, r =>
    match r.ready with
    | [] => r
    | t :: ts => turns n ({ r with ready := ts }.turn t)

/-- All turns until nothing is ready. -/
def settle (r : Rehearsal μ) : Rehearsal μ := turns (r.ready.length + r.channel.turns) r

/-! ## From outside -/

/-- Sends a message. -/
def send (r : Rehearsal μ) (m : μ) : Bool × Rehearsal μ :=
  let (accepted, c) := r.channel.send m
  (accepted, { r with channel := c }.wake c.wokenByMessages)

/-- Sends messages; counts those accepted. -/
def sendAll (r : Rehearsal μ) (ms : List μ) : Nat × Rehearsal μ :=
  ms.foldl (fun (n, r) m =>
    let (accepted, r) := r.send m
    (if accepted then n + 1 else n, r)) (0, r)

/-- Subscribes with a script. -/
def subscribe (r : Rehearsal μ) (conduct : Conduct) : Nat × Rehearsal μ :=
  let (id, c) := r.channel.subscribe
  (id, { r with channel := c, conduct := r.conduct ++ [(id, conduct)] }.wake [.lane id])

/-- Ends a subscription. -/
def unsubscribe (r : Rehearsal μ) (id : Nat) : Bool × Rehearsal μ :=
  let woken := r.channel.wokenByUnsubscribing id
  let (removed, c) := r.channel.unsubscribe id
  (removed, { r with channel := c }.wake woken)

/-- Opens the gate for some deliveries: first for those that wait, then for others to come. -/
def release (r : Rehearsal μ) (n : Nat) : Rehearsal μ :=
  let passing := r.gate.waiting.take n
  let gate : Gate := ⟨r.gate.openFor + (n - passing.length), r.gate.waiting.drop n⟩
  ({ r with gate }.wake (passing.map .delivery)).settle

/-- Gives up what is queued. -/
def cancel (r : Rehearsal μ) : Rehearsal μ :=
  { r with channel := r.channel.cancel }.wake r.channel.wokenByCancelling

/-- Shuts the channel down; tells whether the time for that ran out. Without any time what is
queued is given up at once; a channel that was shut down before is left alone. -/
def shutdown (r : Rehearsal μ) : Bool × Rehearsal μ :=
  let woken := r.channel.idleTasks
  match r.channel.close with
  | (false, _) => (false, r.settle)
  | (true, c) =>
    let r := { r with channel := c }.wake woken
    match c.config.shutdownTimeout with
    | none => (false, r.settle)
    | some limit =>
      if limit.nanos = 0 then (false, r.cancel.settle)
      else
        let r := r.settle
        if r.channel.isDrained then (false, r) else (true, r.cancel.settle)

/-- The messages that a subscriber was given. -/
def notedBy (r : Rehearsal μ) (id : Nat) : List μ :=
  (r.noted.filter fun e => e.1 = id).map Prod.snd

/-- The messages that a subscriber has handled. -/
def handledBy (r : Rehearsal μ) (id : Nat) : List μ :=
  (r.handled.filter fun e => e.1 = id).map Prod.snd

end Rehearsal

end Switchboard
