/-
# Switchboard.Proofs.Bus.Projection -- a run of a bus is a run of either channel

`Bus.onInbound` and `Bus.onOutbound` say what an event of the bus is for each of its two channels.
Along a run of the bus these make up runs of the channels (`Staged.inbound_run?`,
`Staged.outbound_run?`), so that all that is known of channels holds of the two. What connects the
channels is in the traces: the bus puts a message into the inbound one when a payload is received,
and messages into the outbound one when the dispatcher handles what was handed to it.
-/

import Switchboard.Bus.Basic
import Switchboard.Proofs.Channel.Delivery
import Switchboard.Proofs.Dispatch.Handling

namespace Switchboard

universe u

namespace Bus

variable {σ : Type} {b d : Bus σ} {e : Event} {es fs : List Event}

/-! ## Working on the desk -/

/-- The state in which the desk is worked on: the outbox is empty and accepts messages just when
the outbound channel does. -/
def bench (b : Bus σ) : Dispatcher.State σ :=
  b.state.withOutbox { accepting := b.outbound.accepts }

/-- The messages that some work puts into the outbox. -/
def posted {α : Type} (b : Bus σ) (f : Dispatcher.State σ → α × Dispatcher.State σ) :
    List Outbound :=
  (f b.bench).2.desk.outbox.sent

/-- What is put into the outbox is sent on the outbound channel, in order. -/
theorem outbound_work {α : Type} (b : Bus σ) (f : Dispatcher.State σ → α × Dispatcher.State σ) :
    (b.work f).2.outbound = (b.posted f).foldl (fun c m => (c.send m).2) b.outbound := rfl

/-- The message that a received payload becomes. -/
def arrival (b : Bus σ) (session : String) (payload : Json) : Inbound :=
  ⟨payload, (HeaderDraft.new.set HeaderKey.sessionId (.string session)).finish
    (generatedId b.state.desk.made)⟩

theorem sessionId?_arrival (b : Bus σ) (session : String) (payload : Json) :
    (b.arrival session payload).headers.sessionId? = some session := by
  have hkey : HeaderKey.sessionId ≠ HeaderKey.messageId := by decide
  unfold Headers.sessionId? Headers.text? arrival
  rw [HeaderDraft.get?_finish, if_neg hkey, HeaderDraft.get?_set, if_pos rfl]
  rfl

theorem receive_of_closed (h : b.inbound.closed = true) (session : String) (payload : Json) :
    b.receive session payload = (.error (.channelClosed b.inbound.config.name), b) := by
  unfold receive
  rw [if_pos h]

theorem receive_of_open (h : b.inbound.closed = false) (session : String) (payload : Json) :
    b.receive session payload = (.ok (b.inbound.send (b.arrival session payload)).1,
      { b with
        state := { b.state with desk := b.state.desk.fresh.2 }
        inbound := (b.inbound.send (b.arrival session payload)).2 }) := by
  have hdraft : HeaderDraft.new.setSessionId session =
      .ok (HeaderDraft.new.set HeaderKey.sessionId (.string session)) :=
    HeaderDraft.put_eq rfl _
  unfold receive
  rw [if_neg (by simp [h])]
  dsimp only
  rw [hdraft]
  rfl

/-! ## What the operations are -/

theorem dispatch?_eq_some {n : Nat} {outcome : Except Panic Outcome}
    (h : b.dispatch? n = some (outcome, d)) :
    ∃ x c, b.inbound.delivery? n = some x ∧ b.inbound.begin? n = some c ∧
      outcome = (b.dispatcher.dispatch x.message b.bench).1 ∧
      d = { (b.work (b.dispatcher.dispatch x.message)).2 with inbound := c } := by
  unfold dispatch? at h
  split at h
  · next x c hx hc =>
      cases h
      exact ⟨x, c, hx, hc, rfl, rfl⟩
  · cases h

theorem advance?_eq_some {i : Nat} (h : b.advance? i = some d) :
    (∃ waits, b.shutdowns[i]? = some (.closingInbound waits) ∧
      b.inbound.mayReturn waits = true ∧
      d = { b with
        outbound := b.outbound.close.2
        shutdowns := b.shutdowns.set i (.closingOutbound b.outbound.close.1) }) ∨
    (∃ waits, b.shutdowns[i]? = some (.closingOutbound waits) ∧
      b.outbound.mayReturn waits = true ∧ d = { b with shutdowns := b.shutdowns.set i .over }) := by
  unfold advance? at h
  split at h
  · next waits hi =>
      split at h
      · next hreturn =>
          cases h
          exact .inl ⟨waits, hi, hreturn, rfl⟩
      · cases h
  · next waits hi =>
      split at h
      · next hreturn =>
          cases h
          exact .inr ⟨waits, hi, hreturn, rfl⟩
      · cases h
  · cases h

theorem expire?_eq_some {i : Nat} (h : b.expire? i = some d) :
    (b.shutdowns[i]? = some (.closingInbound true) ∧
      d = { b with
        inbound := b.inbound.cancel
        outbound := b.outbound.close.2
        shutdowns := b.shutdowns.set i (.closingOutbound b.outbound.close.1) }) ∨
    (b.shutdowns[i]? = some (.closingOutbound true) ∧
      d = { b with outbound := b.outbound.cancel, shutdowns := b.shutdowns.set i .over }) := by
  unfold expire? at h
  split at h
  · next hi =>
      split at h
      · cases h
      · cases h
        exact .inl ⟨hi, rfl⟩
  · next hi =>
      split at h
      · cases h
      · cases h
        exact .inr ⟨hi, rfl⟩
  · cases h

theorem run?_cons : b.run? (e :: es) = some d ↔ ∃ c, b.after? e = some c ∧ c.run? es = some d := by
  simp [run?, Option.bind_eq_some_iff]

theorem run?_append :
    b.run? (es ++ fs) = some d ↔ ∃ c, b.run? es = some c ∧ c.run? fs = some d := by
  induction es generalizing b with
  | nil => simp [run?]
  | cons e es ih =>
      rw [List.cons_append, run?_cons]
      constructor
      · rintro ⟨c, hc, hrun⟩
        obtain ⟨c', hc', hrest⟩ := ih.1 hrun
        exact ⟨c', run?_cons.2 ⟨c, hc, hc'⟩, hrest⟩
      · rintro ⟨c', hc', hrest⟩
        obtain ⟨c, hc, hrun⟩ := run?_cons.1 hc'
        exact ⟨c, hc, ih.2 ⟨c', hrun, hrest⟩⟩

/-! ## What an event is for the channels -/

/-- The messages that the dispatcher sends when it handles a message that is being delivered. -/
def repliesTo (b : Bus σ) (number : Nat) : List Outbound :=
  match b.inbound.delivery? number with
  | some x => b.posted (b.dispatcher.dispatch x.message)
  | none => []

/-- What an event is for the inbound channel. -/
def onInbound (b : Bus σ) : Event → List (Channel.Event Inbound)
  | .receive session payload => [.send (b.arrival session payload)]
  | .inbound move => [move.event]
  | .dispatch n => [.begin n]
  | .shutdown => [.close]
  | .expire i => if b.shutdowns[i]? = some (.closingInbound true) then [.cancel] else []
  | _ => []

/-- What an event is for the outbound channel. -/
def onOutbound (b : Bus σ) : Event → List (Channel.Event Outbound)
  | .dispatch n => (b.repliesTo n).map .send
  | .outbound move => [move.event]
  | .listen n => [.begin n]
  | .subscribe => [.subscribe]
  | .unsubscribe id => [.unsubscribe id]
  | .notify session method params =>
    (b.posted fun s => s.onDesk fun d => d.notify session method "" (.ok params)).map .send
  | .broadcast method params =>
    (b.posted fun s => s.onDesk fun d => d.broadcast method "" (.ok params)).map .send
  | .advance i =>
    match b.shutdowns[i]? with
    | some (.closingInbound _) => [.close]
    | _ => []
  | .expire i => if b.shutdowns[i]? = some (.closingInbound true) then [.close] else [.cancel]
  | _ => []

/-- What is seen along a run, event after event. -/
def observe {α : Type u} (see : Bus σ → Event → List α) : Bus σ → List Event → List α
  | _, [] => []
  | b, e :: es =>
    match b.after? e with
    | some d => see b e ++ observe see d es
    | none => []

theorem observe_cons {α : Type u} {see : Bus σ → Event → List α} (hd : b.after? e = some d) :
    b.observe see (e :: es) = see b e ++ d.observe see es := by
  simp [observe, hd]

theorem observe_append {α : Type u} {see : Bus σ → Event → List α} (hd : b.run? es = some d) :
    b.observe see (es ++ fs) = b.observe see es ++ d.observe see fs := by
  induction es generalizing b with
  | nil => cases hd; rfl
  | cons e es ih =>
      obtain ⟨c, hc, hrun⟩ := run?_cons.1 hd
      rw [List.cons_append, observe_cons hc, observe_cons hc, ih hrun, List.append_assoc]

/-- What is seen along a run is seen at some event of it. -/
theorem mem_observe {α : Type u} {see : Bus σ → Event → List α} {a : α}
    (ha : a ∈ b.observe see es) :
    ∃ before e since c, es = before ++ e :: since ∧ b.run? before = some c ∧ a ∈ see c e := by
  induction es generalizing b with
  | nil => cases ha
  | cons e es ih =>
      cases hd : b.after? e with
      | none => simp [observe, hd] at ha
      | some d =>
          rw [observe_cons hd] at ha
          rcases List.mem_append.1 ha with ha | ha
          · exact ⟨[], e, es, b, rfl, rfl, ha⟩
          · obtain ⟨before, f, since, c, rfl, hrun, ha⟩ := ih ha
            exact ⟨e :: before, f, since, c, rfl, run?_cons.2 ⟨d, hd, hrun⟩, ha⟩

/-! ## The channels of a bus -/

/-- What holds of the channels of every bus that comes about. -/
structure Staged (b : Bus σ) : Prop where
  /-- The channels are sound. -/
  inbound : b.inbound.Sound
  outbound : b.outbound.Sound
  /-- With the first shutdown the inbound channel is closed. -/
  inbound_closed : b.shutdowns ≠ [] → b.inbound.closed = true
  /-- A shutdown that has dealt with the inbound channel has closed the outbound one. -/
  outbound_closed : ∀ s ∈ b.shutdowns, (∀ waits, s ≠ .closingInbound waits) →
    b.outbound.closed = true

namespace Staged

/-- What an event of the bus does to the inbound channel. -/
theorem inbound_after? (h : b.Staged) (hd : b.after? e = some d) :
    b.inbound.run? (b.onInbound e) = some d.inbound := by
  cases e with
  | receive session payload =>
      cases hd
      show b.inbound.run? [.send (b.arrival session payload)] = _
      rw [Channel.run?_singleton]
      cases hc : b.inbound.closed with
      | true =>
          rw [receive_of_closed hc]
          show some (b.inbound.send _).2 = some b.inbound
          -- A channel that was shut down takes nothing, so the refused call sends nothing either.
          rw [Channel.send_of_not_accepts (by simp [Channel.accepts, hc])]
      | false =>
          rw [receive_of_open hc]
          rfl
  | inbound move =>
      obtain ⟨c, hc, rfl⟩ := Option.map_eq_some_iff.1 hd
      rw [onInbound, Channel.run?_singleton]
      exact hc
  | dispatch n =>
      obtain ⟨⟨outcome, d'⟩, hdispatch, rfl⟩ := Option.map_eq_some_iff.1 hd
      obtain ⟨x, c, _, hc, _, rfl⟩ := dispatch?_eq_some hdispatch
      rw [onInbound, Channel.run?_singleton]
      exact hc
  | shutdown =>
      cases hd
      rfl
  | expire i =>
      rcases expire?_eq_some hd with ⟨hi, rfl⟩ | ⟨hi, rfl⟩
      · -- The first shutdown has closed the channel, so it can be given up.
        have hne : b.shutdowns ≠ [] := by
          intro hnil
          rw [hnil] at hi
          cases hi
        rw [onInbound, if_pos hi, Channel.run?_singleton]
        simp [Channel.after?, h.inbound_closed hne]
      · rw [onInbound, if_neg (by simp [hi])]
        rfl
  | advance i =>
      rcases advance?_eq_some hd with ⟨_, _, _, rfl⟩ | ⟨_, _, _, rfl⟩
      · rfl
      · rfl
  | outbound move =>
      obtain ⟨c, hc, rfl⟩ := Option.map_eq_some_iff.1 hd
      rfl
  | listen n =>
      obtain ⟨c, hc, rfl⟩ := Option.map_eq_some_iff.1 hd
      rfl
  | subscribe => cases hd; rfl
  | unsubscribe id => cases hd; rfl
  | notify session method params => cases hd; rfl
  | broadcast method params => cases hd; rfl
  | endSession session => cases hd; rfl

/-- What an event of the bus does to the outbound channel. -/
theorem outbound_after? (h : b.Staged) (hd : b.after? e = some d) :
    b.outbound.run? (b.onOutbound e) = some d.outbound := by
  cases e with
  | receive session payload =>
      cases hd
      cases hc : b.inbound.closed with
      | true =>
          rw [receive_of_closed hc]
          rfl
      | false =>
          rw [receive_of_open hc]
          rfl
  | inbound move =>
      obtain ⟨c, hc, rfl⟩ := Option.map_eq_some_iff.1 hd
      rfl
  | dispatch n =>
      obtain ⟨⟨outcome, d'⟩, hdispatch, rfl⟩ := Option.map_eq_some_iff.1 hd
      obtain ⟨x, c, hx, hc, _, rfl⟩ := dispatch?_eq_some hdispatch
      rw [onOutbound, repliesTo, hx, Channel.run?_map_send]
      rfl
  | shutdown =>
      cases hd
      rfl
  | expire i =>
      rcases expire?_eq_some hd with ⟨hi, rfl⟩ | ⟨hi, rfl⟩
      · rw [onOutbound, if_pos hi]
        rfl
      · -- A channel is cancelled only once it is closed, and this shutdown has closed it.
        have hclosed : b.outbound.closed = true :=
          h.outbound_closed _ (List.mem_of_getElem? hi) nofun
        rw [onOutbound, if_neg (by rw [hi]; exact nofun), Channel.run?_singleton]
        simp [Channel.after?, hclosed]
  | advance i =>
      rcases advance?_eq_some hd with ⟨_, hi, _, rfl⟩ | ⟨_, hi, _, rfl⟩
      · rw [onOutbound, hi]
        rfl
      · rw [onOutbound, hi]
        rfl
  | outbound move =>
      obtain ⟨c, hc, rfl⟩ := Option.map_eq_some_iff.1 hd
      rw [onOutbound, Channel.run?_singleton]
      exact hc
  | listen n =>
      obtain ⟨c, hc, rfl⟩ := Option.map_eq_some_iff.1 hd
      rw [onOutbound, Channel.run?_singleton]
      exact hc
  | subscribe => cases hd; rfl
  | unsubscribe id => cases hd; rfl
  | notify session method params =>
      cases hd
      rw [onOutbound, Channel.run?_map_send]
      rfl
  | broadcast method params =>
      cases hd
      rw [onOutbound, Channel.run?_map_send]
      rfl
  | endSession session => cases hd; rfl

end Staged

/-- Nothing but a shutdown and its going on changes the shutdowns. -/
theorem shutdowns_after? (hd : b.after? e = some d) (hshutdown : e ≠ .shutdown)
    (hadvance : ∀ i, e ≠ .advance i) (hexpire : ∀ i, e ≠ .expire i) :
    d.shutdowns = b.shutdowns := by
  cases e with
  | shutdown => exact absurd rfl hshutdown
  | advance i => exact absurd rfl (hadvance i)
  | expire i => exact absurd rfl (hexpire i)
  | receive session payload =>
      cases hd
      cases hc : b.inbound.closed with
      | true => rw [receive_of_closed hc]
      | false => rw [receive_of_open hc]
  | inbound move => obtain ⟨_, _, rfl⟩ := Option.map_eq_some_iff.1 hd; rfl
  | dispatch n =>
      obtain ⟨⟨outcome, d'⟩, hdispatch, rfl⟩ := Option.map_eq_some_iff.1 hd
      obtain ⟨_, _, _, _, _, rfl⟩ := dispatch?_eq_some hdispatch
      rfl
  | outbound move => obtain ⟨_, _, rfl⟩ := Option.map_eq_some_iff.1 hd; rfl
  | listen n => obtain ⟨_, _, rfl⟩ := Option.map_eq_some_iff.1 hd; rfl
  | _ => cases hd; rfl

namespace Staged

/-- Every event keeps the channels of a bus as they should be. -/
theorem after? (h : b.Staged) (hd : b.after? e = some d) : d.Staged := by
  have hin := h.inbound_after? hd
  have hout := h.outbound_after? hd
  have hinClosed : b.inbound.closed = true → d.inbound.closed = true :=
    fun hc => (h.inbound.closed_run? hin).2 (.inl hc)
  have houtClosed : b.outbound.closed = true → d.outbound.closed = true :=
    fun hc => (h.outbound.closed_run? hout).2 (.inl hc)
  -- What is closed by the event itself, if the event concerns the shutdowns.
  have hstages : (d.shutdowns ≠ [] → d.inbound.closed = true) ∧
      ∀ s ∈ d.shutdowns, (∀ waits, s ≠ .closingInbound waits) → d.outbound.closed = true := by
    cases e with
    | shutdown =>
        cases hd
        refine ⟨fun _ => Channel.closed_close _, fun s hs hstage => ?_⟩
        rcases List.mem_append.1 hs with hs | hs
        · exact h.outbound_closed s hs hstage
        · exact absurd (List.mem_singleton.1 hs) (hstage _)
    | advance i =>
        rcases advance?_eq_some hd with ⟨_, hi, _, rfl⟩ | ⟨_, hi, _, rfl⟩
        · exact ⟨fun _ => h.inbound_closed (List.ne_nil_of_mem (List.mem_of_getElem? hi)),
            fun _ _ _ => Channel.closed_close _⟩
        · exact ⟨fun _ => h.inbound_closed (List.ne_nil_of_mem (List.mem_of_getElem? hi)),
            fun _ _ _ => h.outbound_closed _ (List.mem_of_getElem? hi) nofun⟩
    | expire i =>
        rcases expire?_eq_some hd with ⟨hi, rfl⟩ | ⟨hi, rfl⟩
        · exact ⟨fun _ => h.inbound_closed (List.ne_nil_of_mem (List.mem_of_getElem? hi)),
            fun _ _ _ => Channel.closed_close _⟩
        · exact ⟨fun _ => h.inbound_closed (List.ne_nil_of_mem (List.mem_of_getElem? hi)),
            fun _ _ _ => h.outbound_closed _ (List.mem_of_getElem? hi) nofun⟩
    | _ =>
        have hsame := shutdowns_after? hd nofun nofun nofun
        rw [hsame]
        exact ⟨fun hne => hinClosed (h.inbound_closed hne),
          fun s hs hstage => houtClosed (h.outbound_closed s hs hstage)⟩
  exact { inbound := h.inbound.run? hin, outbound := h.outbound.run? hout
          inbound_closed := hstages.1, outbound_closed := hstages.2 }

/-- A run of a bus is a run of its inbound channel. -/
theorem inbound_run? (h : b.Staged) (hd : b.run? es = some d) :
    b.inbound.run? (b.observe onInbound es) = some d.inbound := by
  induction es generalizing b with
  | nil => cases hd; rfl
  | cons e es ih =>
      obtain ⟨c, hc, hrun⟩ := run?_cons.1 hd
      rw [observe_cons hc]
      exact Channel.run?_append.2 ⟨c.inbound, h.inbound_after? hc, ih (h.after? hc) hrun⟩

/-- A run of a bus is a run of its outbound channel. -/
theorem outbound_run? (h : b.Staged) (hd : b.run? es = some d) :
    b.outbound.run? (b.observe onOutbound es) = some d.outbound := by
  induction es generalizing b with
  | nil => cases hd; rfl
  | cons e es ih =>
      obtain ⟨c, hc, hrun⟩ := run?_cons.1 hd
      rw [observe_cons hc]
      exact Channel.run?_append.2 ⟨c.outbound, h.outbound_after? hc, ih (h.after? hc) hrun⟩

/-- Every run keeps the channels of a bus as they should be. -/
theorem run? (h : b.Staged) (hd : b.run? es = some d) : d.Staged := by
  induction es generalizing b with
  | nil => cases hd; exact h
  | cons e es ih =>
      obtain ⟨c, hc, hrun⟩ := run?_cons.1 hd
      exact ih (h.after? hc) hrun

end Staged

/-! ## New buses -/

/-- What a bus is when it is built. -/
theorem build_eq_ok {config : BusConfig} {mapping : Mapping σ} {groups : List (Group σ)}
    {resolvers : List (ArgumentResolver σ)} {own : List (ReturnHandler σ)} {app : σ}
    (h : build config mapping groups resolvers own app = .ok b) :
    ∃ registry, Registry.ofGroups mapping groups = .ok registry ∧
      b = { dispatcher := .new registry resolvers own
            state := { desk := { app } }
            inbound := (Channel.new config.inbound).subscribe.2
            outbound := Channel.new config.outbound } := by
  unfold build at h
  split at h
  · cases h
  · next registry hregistry =>
      split at h
      · cases h
      · cases h
      · next cin cout hin hout =>
          cases h
          rw [Channel.eq_new_of_create hin, Channel.eq_new_of_create hout]
          exact ⟨registry, hregistry, rfl⟩

/-- The channels of a new bus are as they should be. -/
theorem staged_build {config : BusConfig} {mapping : Mapping σ} {groups : List (Group σ)}
    {resolvers : List (ArgumentResolver σ)} {own : List (ReturnHandler σ)} {app : σ}
    (h : build config mapping groups resolvers own app = .ok b) : b.Staged := by
  obtain ⟨registry, _, rfl⟩ := build_eq_ok h
  exact
    { inbound := (Channel.sound_new config.inbound).subscribe
      outbound := Channel.sound_new config.outbound
      inbound_closed := fun hne => absurd rfl hne
      outbound_closed := nofun }

/-- To the outbound channel of a new bus nobody has subscribed yet. -/
theorem outbound_build {config : BusConfig} {mapping : Mapping σ} {groups : List (Group σ)}
    {resolvers : List (ArgumentResolver σ)} {own : List (ReturnHandler σ)} {app : σ}
    (h : build config mapping groups resolvers own app = .ok b) :
    b.outbound = Channel.new config.outbound := by
  obtain ⟨registry, _, rfl⟩ := build_eq_ok h
  rfl

/-- The dispatcher stays as it is. -/
theorem dispatcher_run? (hd : b.run? es = some d) : d.dispatcher = b.dispatcher := by
  induction es generalizing b with
  | nil => cases hd; rfl
  | cons e es ih =>
      obtain ⟨c, hc, hrun⟩ := run?_cons.1 hd
      rw [ih hrun]
      cases e with
      | receive session payload =>
          cases hc
          cases hclosed : b.inbound.closed with
          | true => rw [receive_of_closed hclosed]
          | false => rw [receive_of_open hclosed]
      | inbound move => obtain ⟨_, _, rfl⟩ := Option.map_eq_some_iff.1 hc; rfl
      | outbound move => obtain ⟨_, _, rfl⟩ := Option.map_eq_some_iff.1 hc; rfl
      | listen n => obtain ⟨_, _, rfl⟩ := Option.map_eq_some_iff.1 hc; rfl
      | dispatch n =>
          obtain ⟨⟨outcome, d'⟩, hdispatch, rfl⟩ := Option.map_eq_some_iff.1 hc
          obtain ⟨x, c, _, _, _, rfl⟩ := dispatch?_eq_some hdispatch
          rfl
      | advance i => rcases advance?_eq_some hc with ⟨_, _, _, rfl⟩ | ⟨_, _, _, rfl⟩ <;> rfl
      | expire i => rcases expire?_eq_some hc with ⟨_, rfl⟩ | ⟨_, rfl⟩ <;> rfl
      | _ => cases hc; rfl

end Bus

end Switchboard
