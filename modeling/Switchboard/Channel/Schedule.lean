/-
# Switchboard.Channel.Schedule -- one order in which a channel does its work

The machine of `Channel.Basic` leaves the order of its steps open. This schedule fixes it: tasks
wait in a queue and get their turns in the order of their arrival. A lane's turn lasts until it has
to wait, for a message or for a permit; whatever ends the waiting makes the task ready again.
-/

import Switchboard.Channel.Basic

namespace Switchboard

namespace Channel

/-! ## Tasks -/

/-- What gets turns. -/
inductive Task where
  /-- A lane moves its messages on. -/
  | lane (id : Nat)
  /-- A subscriber handles a message. -/
  | delivery (number : Nat)
deriving DecidableEq, Repr

end Channel

/-- Tasks that are ready, the next one first. -/
abbrev ReadyQueue (τ : Type) := List τ

namespace ReadyQueue

/-- Makes a task ready, unless it is already. -/
def wake {τ : Type} [DecidableEq τ] (q : ReadyQueue τ) (t : τ) : ReadyQueue τ :=
  if t ∈ q then q else q ++ [t]

/-- Makes tasks ready, in order. -/
def wakeAll {τ : Type} [DecidableEq τ] (q : ReadyQueue τ) (ts : List τ) : ReadyQueue τ :=
  ts.foldl wake q

end ReadyQueue

namespace Channel

variable {μ : Type}

/-! ## Who is woken -/

/-- The lanes that take messages and wait for one. -/
def idleLanes (c : Channel μ) : List Nat :=
  (c.lanes.filter fun l => l.subscribed && l.held.isNone).map Lane.id

/-- The tasks that the end of all subscriptions makes ready. -/
def idleTasks (c : Channel μ) : List Task := c.idleLanes.map .lane

/-- The tasks that new messages make ready. -/
def wokenByMessages (c : Channel μ) : List Task :=
  (c.lanes.filter fun l => l.held.isNone && !l.queue.isEmpty).map fun l => .lane l.id

/-- The tasks that the end of one subscription makes ready. -/
def wokenByUnsubscribing (c : Channel μ) (id : Nat) : List Task :=
  if id ∈ c.idleLanes then [.lane id] else []

/-- The tasks that a permit makes ready when it is given back: the first in line that is short of
one. -/
def wokenByPermit (c : Channel μ) : List Task := (c.line[c.free]?.map Task.lane).toList

/-- The tasks that giving up makes ready. -/
def wokenByCancelling (c : Channel μ) : List Task := c.lanes.map fun l => .lane l.id

/-! ## Turns -/

/-- The turn of a lane, in at most `steps` steps: it hands its message over if it can, else goes
away if it can, else goes on with what it can do of taking a permit, getting in line and taking a
message. Gives the deliveries that it started. -/
def laneTurn (c : Channel μ) (id : Nat) : (steps : Nat) → Channel μ × List Task
  | 0 => (c, [])
  | steps + 1 =>
    match c.handOver? id with
    | some d =>
      let (e, more) := d.laneTurn id steps
      (e, .delivery c.started :: more)
    | none =>
      match c.leave? id with
      | some c => (c, [])
      | none =>
        match (c.acquire? id).or ((c.lineUp? id).or (c.take? id)) with
        | some d => d.laneTurn id steps
        | none => (c, [])

/-- The turn of a lane. Every message takes four steps, one may be held already, and in the end the
lane may go away. -/
def turnOfLane (c : Channel μ) (id : Nat) : Channel μ × List Task :=
  match c.lane? id with
  | some l => c.laneTurn id (4 * l.queue.length + 4)
  | none => (c, [])

/-- How many turns can come before the channel needs something from outside: one for each lane,
two for each message, one for its delivery and one for the lane that gets the permit then, and two
for a delivery that runs. -/
def turns (c : Channel μ) : Nat :=
  c.lanes.foldl (fun n l => n + 1 + 2 * (l.queue.length + 1)) (2 * c.running.length)

end Channel

end Switchboard
