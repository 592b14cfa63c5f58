/-
# Switchboard.Proofs.Channel.History -- what was handed over, and what was begun

`acquired` reads off a run of the machine for which messages a lane took permits, `handed` which of
them it handed over to deliveries, `begun` which of these the subscriber began to handle. Three laws
tie them to what was meant for the lane, which the calls alone tell. As long as nothing is given up,
what was handed over and what still waits are, in order, what was meant for the lane
(`handed_append_pending`). At all times what was handed over are the messages that permits were
taken for, but for one whose lane still has its permit (`granted_append_acquired_run`). And each
delivery begins once, or has not begun yet (`unbegun_append_handed_run`).
-/

import Switchboard.Proofs.Channel.Roll

namespace Switchboard

namespace Channel

variable {μ : Type} {c d : Channel μ} {e : Event μ} {es fs : List (Event μ)} {id : Nat}

/-! ## What is handed over -/

/-- What is seen along a run, event after event; `see` is given the states before and after. -/
def observe {α : Type} (see : Channel μ → Event μ → Channel μ → List α) :
    Channel μ → List (Event μ) → List α
  | _, [] => []
  | c, e :: es =>
    match c.after? e with
    | some d => see c e d ++ observe see d es
    | none => []

theorem observe_cons {α : Type} {see : Channel μ → Event μ → Channel μ → List α}
    (hd : c.after? e = some d) : c.observe see (e :: es) = see c e d ++ d.observe see es := by
  simp [observe, hd]

theorem observe_append {α : Type} {see : Channel μ → Event μ → Channel μ → List α}
    (hd : c.run? es = some d) :
    c.observe see (es ++ fs) = c.observe see es ++ d.observe see fs := by
  induction es generalizing c with
  | nil => cases hd; rfl
  | cons e es ih =>
      obtain ⟨b, hb, hrun⟩ := run?_cons.1 hd
      rw [List.cons_append, observe_cons hb, observe_cons hb, ih hrun, List.append_assoc]

/-- From steps to runs: what goes in and what comes out differ by what is in stock. -/
theorem observe_conserved {α : Type} {goesIn comesOut : Channel μ → Event μ → Channel μ → List α}
    (stock : Channel μ → List α) (P : Channel μ → Prop)
    (hkeep : ∀ {c d : Channel μ} {e : Event μ}, P c → c.after? e = some d → P d)
    (hstep : ∀ {c d : Channel μ} {e : Event μ}, P c → c.after? e = some d →
      stock c ++ goesIn c e d = comesOut c e d ++ stock d)
    (hc : P c) (hd : c.run? es = some d) :
    stock c ++ c.observe goesIn es = c.observe comesOut es ++ stock d := by
  induction es generalizing c with
  | nil =>
      cases hd
      exact List.append_nil _
  | cons e es ih =>
      obtain ⟨b, hb, hrun⟩ := run?_cons.1 hd
      calc stock c ++ c.observe goesIn (e :: es)
          = stock c ++ goesIn c e b ++ b.observe goesIn es := by
            rw [observe_cons hb, List.append_assoc]
        _ = comesOut c e b ++ (stock b ++ b.observe goesIn es) := by
            rw [hstep hc hb, List.append_assoc]
        _ = c.observe comesOut (e :: es) ++ stock d := by
            rw [ih (hkeep hc hb) hrun, ← List.append_assoc, observe_cons hb]

/-- Where nothing is seen at any event, nothing is seen along the run. -/
theorem observe_eq_nil {α : Type} {see : Channel μ → Event μ → Channel μ → List α}
    (h : ∀ e ∈ es, ∀ c d, see c e d = []) : c.observe see es = [] := by
  induction es generalizing c with
  | nil => rfl
  | cons e es ih =>
      cases hd : c.after? e with
      | none => simp [observe, hd]
      | some d =>
          rw [observe_cons hd, h e List.mem_cons_self]
          exact ih fun f hf => h f (List.mem_cons_of_mem _ hf)

/-- The messages of some deliveries that are for one subscriber. -/
def messagesFor (id : Nat) (xs : List (Delivery μ)) : List μ :=
  (xs.filter fun x => x.lane = id).map Delivery.message

/-- The messages that an event hands to workers on behalf of a subscriber: those of the deliveries
that run after it beside those that ran before. -/
def handedBy (id : Nat) (c : Channel μ) (_ : Event μ) (d : Channel μ) : List μ :=
  messagesFor id (d.running.drop c.running.length)

/-- The messages that are handed to workers on behalf of a subscriber, in order. -/
def handed (id : Nat) (c : Channel μ) (es : List (Event μ)) : List μ :=
  c.observe (handedBy id) es

/-- The messages that wait for a subscriber: the one that its lane holds and those in the queue. -/
def pending (c : Channel μ) (id : Nat) : List μ := ((c.lane? id).map Lane.pending).getD []

@[simp] theorem running_send (m : μ) : (c.send m).2.running = c.running := by
  unfold send
  split <;> rfl

@[simp] theorem running_close : c.close.2.running = c.running := by
  unfold close
  split <;> rfl

/-- What the events do to the deliveries that run: one starts, one begins, one ends, or nothing
happens to them. -/
theorem running_after? (hd : c.after? e = some d) :
    (∃ id l m, e = .handOver id ∧ c.lane? id = some l ∧
      l.held = some { message := m, permitted := true } ∧
      d.running = c.running ++ [{ number := c.started, lane := id, message := m }]) ∨
    (∃ n x, e = .begin n ∧ c.delivery? n = some x ∧ x.begun = false ∧
      d.running = c.running.map fun y => if y.number = n then { y with begun := true } else y) ∨
    (∃ n ending x, e = .finish n ending ∧ c.delivery? n = some x ∧ x.begun = true ∧
      d.running = c.running.filter fun y => y.number ≠ n) ∨
    ((∀ id, e ≠ .handOver id) ∧ (∀ n, e ≠ .begin n) ∧ (∀ n ending, e ≠ .finish n ending) ∧
      d.running = c.running) := by
  cases e with
  | handOver id =>
      obtain ⟨l, m, hl, hm, rfl⟩ := handOver?_eq_some hd
      exact .inl ⟨id, l, m, rfl, hl, hm, rfl⟩
  | «begin» n =>
      obtain ⟨x, hx, hb, rfl⟩ := begin?_eq_some hd
      exact .inr (.inl ⟨n, x, rfl, hx, hb, rfl⟩)
  | finish n ending =>
      obtain ⟨x, hx, hb, rfl⟩ := finish?_eq_some (show c.finish? n ending = some d from hd)
      exact .inr (.inr (.inl ⟨n, ending, x, rfl, hx, hb, rfl⟩))
  | send m => cases hd; exact .inr (.inr (.inr ⟨by simp, by simp, by simp, running_send m⟩))
  | subscribe => cases hd; exact .inr (.inr (.inr ⟨by simp, by simp, by simp, rfl⟩))
  | unsubscribe id => cases hd; exact .inr (.inr (.inr ⟨by simp, by simp, by simp, rfl⟩))
  | take id =>
      obtain ⟨_, l, m, rest, _, _, _, rfl⟩ := take?_eq_some hd
      exact .inr (.inr (.inr ⟨by simp, by simp, by simp, rfl⟩))
  | lineUp id =>
      obtain ⟨_, _, l, _, _, rfl⟩ := lineUp?_eq_some hd
      exact .inr (.inr (.inr ⟨by simp, by simp, by simp, rfl⟩))
  | acquire id =>
      obtain ⟨_, _, l, m, _, _, rfl⟩ := acquire?_eq_some hd
      exact .inr (.inr (.inr ⟨by simp, by simp, by simp, rfl⟩))
  | leave id =>
      obtain ⟨l, _, _, rfl⟩ := leave?_eq_some hd
      exact .inr (.inr (.inr ⟨by simp, by simp, by simp, rfl⟩))
  | close => cases hd; exact .inr (.inr (.inr ⟨by simp, by simp, by simp, running_close⟩))
  | cancel =>
      obtain ⟨_, rfl⟩ : c.closed = true ∧ c.cancel = d := by simpa [after?] using hd
      exact .inr (.inr (.inr ⟨by simp, by simp, by simp, rfl⟩))

/-- Nothing but the start of a delivery hands anything over. -/
theorem handedBy_eq_nil (hd : c.after? e = some d) (he : ∀ id, e ≠ .handOver id) :
    handedBy id c e d = [] := by
  have hle : d.running.length ≤ c.running.length := by
    rcases running_after? hd with ⟨id, _, _, rfl, _⟩ | ⟨_, _, _, _, _, h⟩ | ⟨_, _, _, _, _, _, h⟩ |
      ⟨_, _, _, h⟩
    · exact absurd rfl (he id)
    · exact Nat.le_of_eq (by rw [h, List.length_map])
    · exact h ▸ List.length_filter_le _ _
    · exact Nat.le_of_eq (by rw [h])
  simp [handedBy, messagesFor, List.drop_eq_nil_of_le hle]

/-- A start hands over the message that the lane held. -/
theorem handedBy_handOver {l : Lane μ} {m : μ} {i : Nat} (hl : c.lane? i = some l)
    (hm : l.held = some { message := m, permitted := true })
    (hd : c.after? (.handOver i) = some d) :
    handedBy id c (.handOver i) d = if i = id then [m] else [] := by
  obtain ⟨l', m', hl', hm', rfl⟩ := handOver?_eq_some hd
  rw [hl] at hl'
  cases hl'
  rw [hm] at hm'
  cases hm'
  by_cases hi : i = id <;> simp [handedBy, messagesFor, hi]

/-- A channel was given up in a run just when that happened in it, or it was before. -/
theorem cancelled_run? (hd : c.run? es = some d) :
    d.cancelled = true ↔ c.cancelled = true ∨ .cancel ∈ es := by
  induction es generalizing c with
  | nil => cases hd; simp
  | cons e es ih =>
      obtain ⟨b, hb, hrun⟩ := run?_cons.1 hd
      rw [ih hrun, (fields_after? hb).2.2, List.mem_cons, or_assoc, eq_comm (a := e)]

theorem not_cancelled_run? (hd : c.run? es = some d) :
    d.cancelled = false ↔ c.cancelled = false ∧ .cancel ∉ es := by
  rw [← Bool.not_eq_true, cancelled_run? hd, not_or, Bool.not_eq_true]

/-! ## Nothing is lost, doubled or reordered -/

theorem pending_of_lane? {l : Lane μ} (hl : c.lane? id = some l) : c.pending id = l.pending := by
  simp [pending, hl]

theorem pending_of_none (hl : c.lane? id = none) : c.pending id = [] := by
  simp [pending, hl]

/-- Changes of lanes that keep what they hold and what is in the queue change nothing that waits. -/
theorem pending_congr (h : (d.lane? id).map Lane.pending = (c.lane? id).map Lane.pending) :
    d.pending id = c.pending id :=
  congrArg (Option.getD · []) h

namespace Sound

/-- A message that is sent waits for those who are subscribed. -/
theorem pending_send (h : c.Sound) (m : μ) :
    (c.send m).2.pending id = c.pending id ++ c.roll.brings id (.send m) := by
  have hbrings : c.roll.brings id (.send m) = if id ∈ c.members then [m] else [] := rfl
  rw [hbrings]
  cases hacc : c.accepts with
  | false =>
      -- A send that is not accepted was meant for nobody.
      have hnil : c.members = [] := by
        by_contra hne
        rw [h.accepts_iff.2 hne] at hacc
        cases hacc
      simp [send_of_not_accepts hacc, hnil]
  | true =>
      have hlane := lane?_send (c := c) m id
      rw [hacc, if_pos rfl] at hlane
      cases hl : c.lane? id with
      | none =>
          have hout : id ∉ c.members := fun hin => by
            obtain ⟨l, hl', _⟩ := h.mem_members_iff.1 hin
            rw [hl] at hl'
            cases hl'
          rw [hl] at hlane
          rw [pending_of_none hl, pending_of_none hlane, if_neg hout]
          rfl
      | some l =>
          rw [hl] at hlane
          rw [pending_of_lane? hl, pending_of_lane? hlane, Lane.pending, (push_fields l m).2.2]
          have hmem : id ∈ c.members ↔ l.subscribed = true := by
            rw [h.mem_members_iff, hl]
            simp
          cases hs : l.subscribed with
          | true => simp [Lane.push, Lane.pending, hs, hmem]
          | false => simp [Lane.push, Lane.pending, hs, hmem]

/-- What waits is empty where a lane has nothing more to do. -/
theorem pending_of_isSpent {l : Lane μ} (hl : c.lane? id = some l) (hs : l.isSpent = true) :
    c.pending id = [] := by
  obtain ⟨_, hqueue, hheld⟩ := Lane.isSpent_iff.1 hs
  rw [pending_of_lane? hl, Lane.pending, hqueue, hheld]
  rfl

/-- A new subscriber finds nothing that waits, and takes nothing from the others. -/
theorem pending_subscribe (h : c.Sound) : c.subscribe.2.pending id = c.pending id := by
  unfold pending
  rw [lane?_subscribe]
  by_cases hid : c.nextId = id
  · subst hid
    rw [h.lane?_nextId]
    by_cases hc : c.closed = false <;> simp [hc, Lane.pending]
  · simp [hid]

/-- A lane that takes a message off its queue holds what it took. -/
theorem pending_take? {i : Nat} (hd : c.take? i = some d) : d.pending id = c.pending id := by
  obtain ⟨_, l, m, rest, hl, hq, hheld, rfl⟩ := take?_eq_some hd
  refine pending_congr ?_
  rw [lane?_mapLane _ (by intro; rfl)]
  by_cases hid : id = i
  · subst hid
    simp [hl, hq, hheld, Lane.pending]
  · rw [if_neg hid]

/-- It still holds it when it has a permit. -/
theorem pending_acquire? {i : Nat} (hd : c.acquire? i = some d) : d.pending id = c.pending id := by
  obtain ⟨_, _, l, m, hl, hheld, rfl⟩ := acquire?_eq_some hd
  show (c.mapLane i fun l =>
    { l with held := some { message := m, permitted := true } }).pending id = c.pending id
  refine pending_congr ?_
  rw [lane?_mapLane _ (by intro; rfl)]
  by_cases hid : id = i
  · subst hid
    simp [hl, hheld, Lane.pending]
  · rw [if_neg hid]

/-- A start takes from the waiting messages the one that it hands over. -/
theorem pending_handOver? {i : Nat} (hd : c.after? (.handOver i) = some d) :
    c.pending id = handedBy id c (.handOver i) d ++ d.pending id := by
  obtain ⟨l, m, hl, hm, rfl⟩ := handOver?_eq_some hd
  rw [handedBy_handOver hl hm hd]
  show c.pending id = (if i = id then [m] else []) ++
    (c.mapLane i fun l => { l with held := none }).pending id
  unfold pending
  rw [lane?_mapLane _ (by intro; rfl)]
  by_cases hid : id = i
  · subst hid
    simp [hl, hm, Lane.pending]
  · simp [hid, Ne.symm hid]

/-- A lane goes away with nothing that waits, unless what is queued was given up. -/
theorem pending_leave? {i : Nat} (hc : c.cancelled = false) (hd : c.leave? i = some d) :
    d.pending id = c.pending id := by
  obtain ⟨l, hl, hgone, _⟩ := leave?_eq_some hd
  have hs : l.isSpent = true := by
    rcases hgone with ⟨hcancelled, _⟩ | hs
    · rw [hc] at hcancelled
      cases hcancelled
    · exact hs
  have hlane := lane?_leave? hd id
  by_cases hid : id = i
  · subst hid
    rw [if_pos rfl] at hlane
    rw [pending_of_none hlane, pending_of_isSpent hl hs]
  · rw [if_neg hid] at hlane
    exact pending_congr (by rw [hlane])

/-- The step: what waits before an event and what the event brings is what the event hands over
and what waits after it. -/
theorem pending_append_brings (h : c.Sound) (hc : c.cancelled = false)
    (hd : c.after? e = some d) :
    c.pending id ++ c.roll.brings id e = handedBy id c e d ++ d.pending id := by
  -- Only a start hands anything over; every other event leaves what waits, or adds to it.
  by_cases hstart : ∃ i, e = .handOver i
  · obtain ⟨i, rfl⟩ := hstart
    rw [← pending_handOver? hd]
    exact List.append_nil _
  rw [handedBy_eq_nil hd fun i heq => hstart ⟨i, heq⟩, List.nil_append]
  cases e with
  | handOver i => exact absurd ⟨i, rfl⟩ hstart
  | send m =>
      cases hd
      exact (h.pending_send m).symm
  | subscribe =>
      cases hd
      rw [h.pending_subscribe]
      exact List.append_nil _
  | unsubscribe i =>
      cases hd
      refine (List.append_nil _).trans (Eq.symm (pending_congr ?_))
      rw [lane?_unsubscribe]
      by_cases hi : id = i <;> simp [hi, Function.comp_def]
  | take i => exact (List.append_nil _).trans (pending_take? hd).symm
  | lineUp i =>
      obtain ⟨_, _, l, _, _, rfl⟩ := lineUp?_eq_some hd
      exact List.append_nil _
  | acquire i => exact (List.append_nil _).trans (pending_acquire? hd).symm
  | «begin» n =>
      obtain ⟨x, _, _, rfl⟩ := begin?_eq_some hd
      exact List.append_nil _
  | finish n ending =>
      obtain ⟨x, _, _, rfl⟩ := finish?_eq_some (show c.finish? n ending = some d from hd)
      exact List.append_nil _
  | leave i => exact (List.append_nil _).trans (pending_leave? hc hd).symm
  | close =>
      cases hd
      refine (List.append_nil _).trans (Eq.symm (pending_congr ?_))
      rw [lane?_close]
      cases c.closed <;> simp [Function.comp_def]
  | cancel =>
      obtain ⟨_, rfl⟩ : c.closed = true ∧ c.cancel = d := by simpa [Channel.after?] using hd
      exact List.append_nil _

/-- The run: as long as nothing is given up, what was handed over and what still waits are what
waited before and what was meant for the subscriber. -/
theorem handed_append_pending (h : c.Sound) (hd : c.run? es = some d)
    (hc : d.cancelled = false) :
    handed id c es ++ d.pending id = c.pending id ++ c.roll.meantFor id es := by
  induction es generalizing c with
  | nil =>
      cases hd
      exact (List.append_nil _).symm
  | cons e es ih =>
      obtain ⟨b, hb, hrun⟩ := run?_cons.1 hd
      -- Giving up is for good, so it has not happened on the way.
      have hcc : c.cancelled = false := ((not_cancelled_run? hd).1 hc).1
      calc handed id c (e :: es) ++ d.pending id
          = handedBy id c e b ++ (handed id b es ++ d.pending id) := by
            rw [handed, observe_cons hb, List.append_assoc]
            rfl
        _ = (handedBy id c e b ++ b.pending id) ++ b.roll.meantFor id es := by
            rw [ih (h.after? hb) hrun, List.append_assoc]
        _ = c.pending id ++ c.roll.meantFor id (e :: es) := by
            rw [← h.pending_append_brings hcc hb, h.roll_after? hb, List.append_assoc]
            rfl

end Sound

/-! ## Permits come first -/

/-- The message for which the lane of a subscriber has a permit. -/
def granted? (c : Channel μ) (id : Nat) : Option μ := (c.lane? id).bind Lane.granted?

/-- The messages for which the lane of a subscriber takes permits at an event. -/
def acquiredBy (id : Nat) (c : Channel μ) (e : Event μ) (_ : Channel μ) : List μ :=
  match e with
  | .acquire i => if i = id then ((c.lane? i).bind Lane.held).toList.map Taken.message else []
  | _ => []

/-- The messages for which the lane of a subscriber takes permits, in order. -/
def acquired (id : Nat) (c : Channel μ) (es : List (Event μ)) : List μ :=
  c.observe (acquiredBy id) es

theorem granted?_of_lane? {l : Lane μ} (hl : c.lane? id = some l) :
    c.granted? id = l.granted? := by
  simp [granted?, hl]

theorem granted?_of_none (hl : c.lane? id = none) : c.granted? id = none := by
  simp [granted?, hl]

/-- A message with a permit waits, and it is the first to do so. -/
theorem granted?_isPrefix (c : Channel μ) (id : Nat) :
    (c.granted? id).toList <+: c.pending id := by
  cases hl : c.lane? id with
  | none =>
      rw [granted?_of_none hl]
      exact List.nil_prefix
  | some l =>
      rw [granted?_of_lane? hl, pending_of_lane? hl]
      exact l.granted?_isPrefix

theorem acquiredBy_eq_nil (he : ∀ i, e ≠ .acquire i) : acquiredBy id c e d = [] := by
  cases e with
  | acquire i => exact absurd rfl (he i)
  | _ => rfl

/-- After giving up, no permit is taken. -/
theorem acquired_of_cancelled (hc : c.cancelled = true) : acquired id c es = [] := by
  induction es generalizing c with
  | nil => rfl
  | cons e es ih =>
      cases hd : c.after? e with
      | none => simp [acquired, observe, hd]
      | some d =>
          have hnone : acquiredBy id c e d = [] := by
            refine acquiredBy_eq_nil ?_
            rintro i rfl
            rw [(acquire?_eq_some hd).1] at hc
            cases hc
          rw [acquired, observe_cons hd, hnone]
          exact ih ((fields_after? hd).2.2.2 (.inl hc))

namespace Sound

/-- A change of one lane changes nothing for the others. -/
theorem granted?_mapLane {l : Lane μ} {i : Nat} (hl : c.lane? i = some l) (f : Lane μ → Lane μ)
    (hid : ∀ l, (f l).id = l.id) :
    (c.mapLane i f).granted? id = if id = i then (f l).granted? else c.granted? id := by
  unfold granted?
  rw [lane?_mapLane f hid]
  by_cases heq : id = i
  · simp [heq, hl]
  · simp [heq]

/-- A lane that goes away takes no permit with it. -/
theorem granted?_leave? {i : Nat} (hd : c.leave? i = some d) : d.granted? id = c.granted? id := by
  obtain ⟨l, hl, hgone, _⟩ := leave?_eq_some hd
  have hlane := lane?_leave? hd id
  by_cases hid : id = i
  · subst hid
    rw [if_pos rfl] at hlane
    rw [granted?_of_none hlane, granted?_of_lane? hl,
      Lane.granted?_eq_none (isPermitted_of_leaves hgone)]
  · rw [if_neg hid] at hlane
    exact congrArg (Option.bind · Lane.granted?) hlane

/-- A new subscriber has no permit, and takes none from the others. -/
theorem granted?_subscribe (h : c.Sound) : c.subscribe.2.granted? id = c.granted? id := by
  unfold granted?
  rw [lane?_subscribe]
  by_cases hid : c.nextId = id
  · subst hid
    rw [h.lane?_nextId]
    by_cases hc : c.closed = false <;> simp [hc, Lane.granted?]
  · simp [hid]

/-- The step: the message with a permit before an event, and one for which a permit is taken with
it, is handed over with it or has its permit after it. -/
theorem granted_append_acquired (h : c.Sound) (hd : c.after? e = some d) :
    (c.granted? id).toList ++ acquiredBy id c e d =
      handedBy id c e d ++ (d.granted? id).toList := by
  by_cases hstart : ∃ i, e = .handOver i
  · obtain ⟨i, rfl⟩ := hstart
    obtain ⟨l, m, hl, hm, rfl⟩ := handOver?_eq_some hd
    rw [handedBy_handOver hl hm hd]
    show (c.granted? id).toList ++ [] = (if i = id then [m] else []) ++
      ((c.mapLane i fun l => { l with held := none }).granted? id).toList
    rw [granted?_mapLane hl _ (by intro; rfl)]
    by_cases hid : id = i
    · subst hid
      simp [granted?_of_lane? hl, Lane.granted?, hm]
    · simp [hid, Ne.symm hid]
  rw [handedBy_eq_nil hd fun i heq => hstart ⟨i, heq⟩, List.nil_append]
  cases e with
  | handOver i => exact absurd ⟨i, rfl⟩ hstart
  | acquire i =>
      obtain ⟨_, _, l, m, hl, hm, rfl⟩ := acquire?_eq_some hd
      show (c.granted? id).toList ++ acquiredBy id c (.acquire i) _ =
        ((c.mapLane i fun l =>
          { l with held := some { message := m, permitted := true } }).granted? id).toList
      rw [granted?_mapLane hl _ (by intro; rfl)]
      by_cases hid : id = i
      · subst hid
        simp [granted?_of_lane? hl, Lane.granted?, acquiredBy, hl, hm]
      · simp [acquiredBy, hid, Ne.symm hid]
  | take i =>
      obtain ⟨_, l, m, rest, hl, _, hheld, rfl⟩ := take?_eq_some hd
      show (c.granted? id).toList ++ [] = ((c.mapLane i fun l =>
        { l with queue := rest, held := some { message := m } }).granted? id).toList
      rw [granted?_mapLane hl _ (by intro; rfl)]
      by_cases hid : id = i
      · subst hid
        simp [granted?_of_lane? hl, Lane.granted?, hheld]
      · simp [hid]
  | lineUp i =>
      obtain ⟨_, _, l, _, _, rfl⟩ := lineUp?_eq_some hd
      exact List.append_nil _
  | leave i => simp [granted?_leave? hd, acquiredBy]
  | send m =>
      cases hd
      unfold granted?
      rw [lane?_send]
      cases c.lane? id <;> cases c.accepts <;> simp [acquiredBy]
  | subscribe =>
      cases hd
      simp [h.granted?_subscribe, acquiredBy]
  | unsubscribe i =>
      cases hd
      unfold granted?
      rw [lane?_unsubscribe]
      cases c.lane? id <;> by_cases hi : id = i <;> simp [acquiredBy, hi]
  | «begin» n =>
      obtain ⟨x, _, _, rfl⟩ := begin?_eq_some hd
      exact List.append_nil _
  | finish n ending =>
      obtain ⟨x, _, _, rfl⟩ := finish?_eq_some (show c.finish? n ending = some d from hd)
      exact List.append_nil _
  | close =>
      cases hd
      unfold granted?
      rw [lane?_close]
      cases c.lane? id <;> cases c.closed <;> simp [acquiredBy]
  | cancel =>
      obtain ⟨_, rfl⟩ : c.closed = true ∧ c.cancel = d := by simpa [Channel.after?] using hd
      exact List.append_nil _

/-- The run: at all times what was handed over are the messages for which permits were taken, but
for the one whose lane still has its permit. -/
theorem granted_append_acquired_run (h : c.Sound) (hd : c.run? es = some d) :
    (c.granted? id).toList ++ acquired id c es = handed id c es ++ (d.granted? id).toList :=
  observe_conserved (fun c => (c.granted? id).toList) Sound (fun hc he => hc.after? he)
    (fun hc he => hc.granted_append_acquired he) h hd

/-- After giving up, nothing is handed over but the message for which the lane has a permit
already. -/
theorem handed_isPrefix_of_cancelled (h : c.Sound) (hc : c.cancelled = true)
    (hd : c.run? es = some d) : handed id c es <+: (c.granted? id).toList := by
  have hlaw : (c.granted? id).toList ++ acquired id c es = _ := h.granted_append_acquired_run hd
  rw [acquired_of_cancelled hc, List.append_nil] at hlaw
  exact ⟨_, hlaw.symm⟩

/-- At all times what was handed over is a beginning of what waited before and what was meant for
the subscriber, also when the rest is given up. -/
theorem handed_isPrefix (h : c.Sound) (hd : c.run? es = some d) :
    handed id c es <+: c.pending id ++ c.roll.meantFor id es := by
  induction es generalizing c with
  | nil => exact List.nil_prefix
  | cons e es ih =>
      obtain ⟨b, hb, hrun⟩ := run?_cons.1 hd
      cases hc : c.cancelled with
      | true =>
          have hpre : handed id c (e :: es) <+: _ := h.handed_isPrefix_of_cancelled hc hd
          exact (hpre.trans (c.granted?_isPrefix id)).trans (List.prefix_append _ _)
      | false =>
          rw [handed, observe_cons hb, Roll.meantFor, ← List.append_assoc,
            h.pending_append_brings hc hb, List.append_assoc, ← h.roll_after? hb]
          exact (List.prefix_append_right_inj _).2 (ih (h.after? hb) hrun)

end Sound

/-! ## Every delivery begins once -/

/-- The messages that a subscriber begins to handle at an event. -/
def begunBy (id : Nat) (c : Channel μ) (e : Event μ) (_ : Channel μ) : List μ :=
  match e with
  | .begin n => messagesFor id (c.delivery? n).toList
  | _ => []

/-- The messages that a subscriber begins to handle, in order. -/
def begun (id : Nat) (c : Channel μ) (es : List (Event μ)) : List μ := c.observe (begunBy id) es

/-- The messages that were handed over for a subscriber which has not begun to handle them. -/
def unbegun (c : Channel μ) (id : Nat) : List μ :=
  messagesFor id (c.running.filter fun x => !x.begun)

/-- Where no delivery begins, nothing is begun. -/
theorem begun_eq_nil (h : ∀ n, .begin n ∉ es) : begun id c es = [] := by
  refine observe_eq_nil fun e he c d => ?_
  cases e with
  | «begin» n => exact absurd he (h n)
  | _ => rfl

theorem messagesFor_append (xs ys : List (Delivery μ)) :
    messagesFor id (xs ++ ys) = messagesFor id xs ++ messagesFor id ys := by
  simp [messagesFor]

theorem messagesFor_perm {xs ys : List (Delivery μ)} (h : xs.Perm ys) :
    (messagesFor id xs).Perm (messagesFor id ys) :=
  (h.filter _).map _

/-- No delivery loses what it delivers when another one begins. -/
theorem filter_begun_map (n : Nat) (xs : List (Delivery μ)) :
    (xs.map fun y => if y.number = n then { y with begun := true } else y).filter
      (fun x => !x.begun) = (xs.filter fun x => !x.begun).filter fun y => y.number ≠ n := by
  induction xs with
  | nil => rfl
  | cons y ys ih =>
      by_cases hy : y.number = n
      · cases hb : y.begun <;> simpa [hy, hb] using ih
      · cases hb : y.begun <;> simpa [hy, hb] using ih

namespace Sound

/-- The step: deliveries that have not begun before an event, and one that starts with it, begin
with it or have not begun after it. -/
theorem unbegun_append_handed (h : c.Sound) (hd : c.after? e = some d) :
    (c.unbegun id ++ handedBy id c e d).Perm (begunBy id c e d ++ d.unbegun id) := by
  rcases running_after? hd with ⟨i, l, m, rfl, _, _, hrun⟩ | ⟨n, x, rfl, hx, hb, hrun⟩ |
    ⟨n, ending, x, rfl, hx, hb, hrun⟩ | ⟨hstart, hbegin, _, hrun⟩
  · -- The new delivery stands at the end and has not begun.
    have hnew : handedBy id c (.handOver i) d =
        messagesFor id [{ number := c.started, lane := i, message := m }] := by
      simp [handedBy, hrun]
    have hafter : d.unbegun id = c.unbegun id ++ handedBy id c (.handOver i) d := by
      rw [hnew, unbegun, hrun, List.filter_append, messagesFor_append]
      rfl
    rw [hafter]
    exact List.Perm.refl _
  · -- Deliveries begin in any order, so what begins may stand anywhere among what has not.
    have hmem : x ∈ c.running.filter fun x => !x.begun :=
      List.mem_filter.2 ⟨mem_of_delivery? hx, by simp [hb]⟩
    have hperm := perm_cons_filter_key Delivery.number
      ((List.filter_sublist.map _).nodup h.numbers_nodup) hmem
    rw [number_of_delivery? hx, ← filter_begun_map, ← hrun] at hperm
    have hbegun : begunBy id c (.begin n) d = messagesFor id [x] := by simp [begunBy, hx]
    rw [handedBy_eq_nil hd nofun, List.append_nil, hbegun, unbegun, unbegun, ← messagesFor_append]
    exact messagesFor_perm hperm
  · -- Only a delivery that has begun ends.
    have hkeep : d.running.filter (fun x => !x.begun) = c.running.filter fun x => !x.begun := by
      rw [hrun, List.filter_filter]
      refine List.filter_congr fun y hy => ?_
      by_cases hn : y.number = n
      · have hyx := h.delivery?_of_mem hy
        rw [hn, hx] at hyx
        cases hyx
        simp [hb]
      · simp [hn]
    rw [handedBy_eq_nil hd nofun, List.append_nil, unbegun, unbegun, hkeep]
    exact List.Perm.refl _
  · have hnone : begunBy id c e d = [] := by
      cases e with
      | «begin» n => exact absurd rfl (hbegin n)
      | _ => rfl
    rw [handedBy_eq_nil hd hstart, hnone, List.append_nil, unbegun, unbegun, hrun]
    exact List.Perm.refl _

/-- The run: what had not begun before and what is handed over begins during the run, once each,
or has not begun after it. -/
theorem unbegun_append_handed_run (h : c.Sound) (hd : c.run? es = some d) :
    (c.unbegun id ++ handed id c es).Perm (begun id c es ++ d.unbegun id) := by
  induction es generalizing c with
  | nil =>
      cases hd
      exact List.Perm.of_eq (List.append_nil _)
  | cons e es ih =>
      obtain ⟨b, hb, hrun⟩ := run?_cons.1 hd
      -- The step law turns what is handed over first into what begins first.
      rw [handed, observe_cons hb, begun, observe_cons hb, ← List.append_assoc]
      refine ((h.unbegun_append_handed hb).append_right _).trans ?_
      rw [List.append_assoc, List.append_assoc]
      exact (ih (h.after? hb) hrun).append_left _

end Sound

/-! ## New channels -/

section New

variable {config : ChannelConfig}

/-- Nothing waits in a new channel. -/
theorem pending_new (config : ChannelConfig) (id : Nat) :
    (new config : Channel μ).pending id = [] :=
  pending_of_none rfl

/-- A message whose delivery has not begun was meant for the subscriber to whom it is delivered. -/
theorem mem_meantFor_of_delivery? {x : Delivery μ} {n : Nat} (hc : (new config).run? es = some c)
    (hx : c.delivery? n = some x) (hb : x.begun = false) :
    x.message ∈ ({} : Roll).meantFor x.lane es := by
  have h₀ : (new config : Channel μ).Sound := sound_new config
  have hunbegun : x.message ∈ c.unbegun x.lane := by
    have hmem : x ∈ c.running.filter fun x => !x.begun :=
      List.mem_filter.2 ⟨mem_of_delivery? hx, by simp [hb]⟩
    exact List.mem_map_of_mem (List.mem_filter.2 ⟨hmem, by simp⟩)
  have hhanded : x.message ∈ handed x.lane (new config) es := by
    have hperm : (handed x.lane (new config) es).Perm _ := h₀.unbegun_append_handed_run hc
    exact hperm.mem_iff.2 (List.mem_append_right _ hunbegun)
  have hpre : handed x.lane (new config) es <+: _ := h₀.handed_isPrefix hc
  rw [pending_new, List.nil_append] at hpre
  exact hpre.subset hhanded

end New

end Channel

end Switchboard
