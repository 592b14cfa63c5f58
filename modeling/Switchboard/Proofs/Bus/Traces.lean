/-
# Switchboard.Proofs.Bus.Traces -- what can be seen along a run of a bus

`accepted` are the messages that calls put into the inbound channel, `handles` those that the
dispatcher handles, `heard` those that a subscriber of the outbound channel handles. Each is read
off the events of the bus, and each is shown to be what the trace of one channel says: `accepted`
what is meant for the dispatcher, `handles` what the dispatcher begins, `heard` what the subscriber
begins. Between the two channels stands the dispatch, which sends just its replies as long as the
outbound channel accepts them (`repliesTo_eq`).
-/

import Switchboard.Proofs.Bus.Projection

namespace Switchboard

namespace Bus

open Channel (messagesFor)

variable {σ : Type} {b c d : Bus σ} {e : Event} {es fs : List Event} {id n : Nat}

/-- An event that sends no notification and lets no shutdown's time run out. -/
def Event.isOrdinary : Event → Bool
  | .notify .. | .broadcast .. | .expire _ => false
  | _ => true

/-! ## What events are not -/

section Moves

variable {μ : Type} (move : Channel.Move)

@[simp] theorem send_ne_move (m : μ) : Channel.Event.send m ≠ move.event := by
  cases move <;> exact nofun

@[simp] theorem subscribe_ne_move : (.subscribe : Channel.Event μ) ≠ move.event := by
  cases move <;> exact nofun

@[simp] theorem unsubscribe_ne_move (id : Nat) :
    (.unsubscribe id : Channel.Event μ) ≠ move.event := by
  cases move <;> exact nofun

@[simp] theorem begin_ne_move (n : Nat) : (.begin n : Channel.Event μ) ≠ move.event := by
  cases move <;> exact nofun

@[simp] theorem close_ne_move : (.close : Channel.Event μ) ≠ move.event := by
  cases move <;> exact nofun

@[simp] theorem cancel_ne_move : (.cancel : Channel.Event μ) ≠ move.event := by
  cases move <;> exact nofun

end Moves

/-- What an event can be for the inbound channel. -/
theorem onInbound_cases {f : Channel.Event Inbound} (h : f ∈ b.onInbound e) :
    (∃ session payload, e = .receive session payload ∧ f = .send (b.arrival session payload)) ∨
    (∃ move, e = .inbound move ∧ f = move.event) ∨
    (∃ n, e = .dispatch n ∧ f = .begin n) ∨
    (e = .shutdown ∧ f = .close) ∨
    (∃ i, e = .expire i ∧ f = .cancel) := by
  cases e with
  | receive session payload => exact .inl ⟨session, payload, rfl, List.mem_singleton.1 h⟩
  | inbound move => exact .inr (.inl ⟨move, rfl, List.mem_singleton.1 h⟩)
  | dispatch n => exact .inr (.inr (.inl ⟨n, rfl, List.mem_singleton.1 h⟩))
  | shutdown => exact .inr (.inr (.inr (.inl ⟨rfl, List.mem_singleton.1 h⟩)))
  | expire i =>
      have hexpire : f ∈ (if b.shutdowns[i]? = some (.closingInbound true) then [.cancel]
        else [] : List (Channel.Event Inbound)) := h
      split at hexpire
      · exact .inr (.inr (.inr (.inr ⟨i, rfl, List.mem_singleton.1 hexpire⟩)))
      · cases hexpire
  | _ => cases h

theorem receive_of_onInbound {m : Inbound} (h : .send m ∈ b.onInbound e) :
    ∃ session payload, e = .receive session payload ∧ m = b.arrival session payload := by
  simpa using onInbound_cases h

theorem dispatch_of_onInbound (h : .begin n ∈ b.onInbound e) : e = .dispatch n := by
  simpa using onInbound_cases h

theorem shutdown_of_onInbound (h : .close ∈ b.onInbound e) : e = .shutdown := by
  simpa using onInbound_cases h

theorem expire_of_onInbound (h : .cancel ∈ b.onInbound e) : ∃ i, e = .expire i := by
  simpa using onInbound_cases h

/-- Nobody joins or leaves the inbound channel. -/
theorem subscribe_not_mem_onInbound : .subscribe ∉ b.onInbound e := by
  intro h
  simpa using onInbound_cases h

theorem unsubscribe_not_mem_onInbound : .unsubscribe id ∉ b.onInbound e := by
  intro h
  simpa using onInbound_cases h

/-- What an event can be for the outbound channel. -/
theorem onOutbound_cases {f : Channel.Event Outbound} (h : f ∈ b.onOutbound e) :
    (∃ msg, f = .send msg ∧ ((∃ n, e = .dispatch n) ∨
      (∃ session method params, e = .notify session method params) ∨
      (∃ method params, e = .broadcast method params))) ∨
    (∃ move, e = .outbound move ∧ f = move.event) ∨
    (∃ n, e = .listen n ∧ f = .begin n) ∨
    (e = .subscribe ∧ f = .subscribe) ∨
    (∃ id, e = .unsubscribe id ∧ f = .unsubscribe id) ∨
    (∃ i, (e = .advance i ∨ e = .expire i) ∧ f = .close) ∨
    (∃ i, e = .expire i ∧ f = .cancel) := by
  cases e with
  | dispatch n =>
      obtain ⟨msg, _, rfl⟩ := List.mem_map.1 h
      exact .inl ⟨msg, rfl, .inl ⟨n, rfl⟩⟩
  | notify session method params =>
      obtain ⟨msg, _, rfl⟩ := List.mem_map.1 h
      exact .inl ⟨msg, rfl, .inr (.inl ⟨session, method, params, rfl⟩)⟩
  | broadcast method params =>
      obtain ⟨msg, _, rfl⟩ := List.mem_map.1 h
      exact .inl ⟨msg, rfl, .inr (.inr ⟨method, params, rfl⟩)⟩
  | outbound move => exact .inr (.inl ⟨move, rfl, List.mem_singleton.1 h⟩)
  | listen n => exact .inr (.inr (.inl ⟨n, rfl, List.mem_singleton.1 h⟩))
  | subscribe => exact .inr (.inr (.inr (.inl ⟨rfl, List.mem_singleton.1 h⟩)))
  | unsubscribe id => exact .inr (.inr (.inr (.inr (.inl ⟨id, rfl, List.mem_singleton.1 h⟩))))
  | advance i =>
      simp only [onOutbound] at h
      split at h
      · exact .inr (.inr (.inr (.inr (.inr (.inl ⟨i, .inl rfl, List.mem_singleton.1 h⟩)))))
      · cases h
  | expire i =>
      have hexpire : f ∈ (if b.shutdowns[i]? = some (.closingInbound true) then [.close]
        else [.cancel] : List (Channel.Event Outbound)) := h
      split at hexpire
      · exact .inr (.inr (.inr (.inr (.inr (.inl ⟨i, .inr rfl, List.mem_singleton.1 hexpire⟩)))))
      · exact .inr (.inr (.inr (.inr (.inr (.inr ⟨i, rfl, List.mem_singleton.1 hexpire⟩)))))
  | _ => cases h

theorem dispatch_of_onOutbound {msg : Outbound} (h : .send msg ∈ b.onOutbound e)
    (hordinary : e.isOrdinary = true) : ∃ n, e = .dispatch n := by
  have hcases : (∃ n, e = .dispatch n) ∨
      (∃ session method params, e = .notify session method params) ∨
      ∃ method params, e = .broadcast method params := by simpa using onOutbound_cases h
  rcases hcases with he | ⟨_, _, _, rfl⟩ | ⟨_, _, rfl⟩
  · exact he
  · cases hordinary
  · cases hordinary

theorem listen_of_onOutbound (h : .begin n ∈ b.onOutbound e) : e = .listen n := by
  simpa using onOutbound_cases h

theorem unsubscribe_of_onOutbound (h : .unsubscribe id ∈ b.onOutbound e) :
    e = .unsubscribe id := by
  simpa using onOutbound_cases h

theorem advance_or_expire_of_onOutbound (h : .close ∈ b.onOutbound e) :
    ∃ i, e = .advance i ∨ e = .expire i := by
  simpa using onOutbound_cases h

theorem expire_of_onOutbound (h : .cancel ∈ b.onOutbound e) : ∃ i, e = .expire i := by
  simpa using onOutbound_cases h

/-! ## What is seen -/

/-- The messages that calls put into the inbound channel: one for every payload that is received
and accepted. -/
def accepted (b : Bus σ) : Event → List Inbound
  | .receive session payload =>
    match (b.receive session payload).1 with
    | .ok true => [b.arrival session payload]
    | _ => []
  | _ => []

/-- The messages that the dispatcher handles, each with the state in which it does so. -/
def handles (b : Bus σ) : Event → List (Inbound × Dispatcher.State σ)
  | .dispatch n => (b.inbound.delivery? n).toList.map fun x => (x.message, b.state)
  | _ => []

/-- The messages that a subscriber of the outbound channel handles. -/
def heard (id : Nat) (b : Bus σ) : Event → List Outbound
  | .listen n => messagesFor id (b.outbound.delivery? n).toList
  | _ => []

namespace Staged

/-- The inbound channel is closed by a shutdown and by nothing else. -/
theorem inbound_closed_after? (h : b.Staged) (hd : b.after? e = some d) :
    d.inbound.closed = true ↔ b.inbound.closed = true ∨ e = .shutdown := by
  rw [h.inbound.closed_run? (h.inbound_after? hd)]
  refine or_congr_right ⟨shutdown_of_onInbound, ?_⟩
  rintro rfl
  exact List.mem_singleton_self _

theorem inbound_closed_eq (h : b.Staged) (hd : b.after? e = some d) (hshutdown : e ≠ .shutdown) :
    d.inbound.closed = b.inbound.closed := by
  rw [Bool.eq_iff_iff, h.inbound_closed_after? hd]
  exact or_iff_left hshutdown

theorem inbound_closed_run? (h : b.Staged) (hd : b.run? es = some d) :
    d.inbound.closed = true ↔ b.inbound.closed = true ∨ .shutdown ∈ es := by
  induction es generalizing b with
  | nil => cases hd; simp
  | cons e es ih =>
      obtain ⟨c, hc, hrun⟩ := run?_cons.1 hd
      rw [ih (h.after? hc) hrun, h.inbound_closed_after? hc, List.mem_cons, or_assoc,
        eq_comm (a := e)]

/-- What is seen of the outbound channel along a run of the bus, event after event of the bus. -/
theorem observe_outbound {α : Type}
    {see : Channel Outbound → Channel.Event Outbound → Channel Outbound → List α}
    {seen : Bus σ → Event → List α}
    (hstep : ∀ {b d : Bus σ} {e : Event}, b.Staged → b.after? e = some d →
      b.outbound.observe see (b.onOutbound e) = seen b e)
    (h : b.Staged) (hd : b.run? es = some d) :
    b.outbound.observe see (b.observe onOutbound es) = b.observe seen es := by
  induction es generalizing b with
  | nil => rfl
  | cons e es ih =>
      obtain ⟨c, hc, hrun⟩ := run?_cons.1 hd
      rw [observe_cons hc, observe_cons hc, ← hstep h hc, ← ih (h.after? hc) hrun]
      exact Channel.observe_append (h.outbound_after? hc)

/-- What a subscriber of the outbound channel begins is what it handles. -/
theorem begun_outbound (h : b.Staged) (hd : b.run? es = some d) :
    Channel.begun id b.outbound (b.observe onOutbound es) = b.observe (heard id) es := by
  refine observe_outbound (fun {b d e} h hd => ?_) h hd
  -- No event of the bus but `listen` begins a delivery on the outbound channel.
  by_cases he : ∃ n, e = .listen n
  · obtain ⟨n, rfl⟩ := he
    have hbegin : b.outbound.after? (.begin n) = some d.outbound :=
      Channel.run?_singleton.symm.trans (h.outbound_after? hd)
    show Channel.observe _ b.outbound [.begin n] = _
    rw [Channel.observe_cons hbegin]
    exact List.append_nil _
  · have hnone : b.heard id e = [] := by
      cases e with
      | listen n => exact absurd ⟨n, rfl⟩ he
      | _ => rfl
    rw [hnone]
    exact Channel.begun_eq_nil fun n hn => he ⟨n, listen_of_onOutbound hn⟩

/-! ## What is received -/

/-- The dispatcher stays subscribed as long as the inbound channel is open. -/
theorem dispatcher_after? (h : b.Staged)
    (hmember : b.inbound.closed = false → 1 ∈ b.inbound.members) (hd : b.after? e = some d)
    (hopen : d.inbound.closed = false) : 1 ∈ d.inbound.members :=
  h.inbound.member_run? (h.inbound_after? hd) hmember unsubscribe_not_mem_onInbound hopen

/-- A call to receive is answered by whether the inbound channel is open. -/
theorem receive_fst (h : b.Staged)
    (hmember : b.inbound.closed = false → 1 ∈ b.inbound.members) (session : String)
    (payload : Json) : (b.receive session payload).1 =
      if b.inbound.closed then .error (.channelClosed b.inbound.config.name) else .ok true := by
  cases hc : b.inbound.closed with
  | true => rw [receive_of_closed hc]; rfl
  | false =>
      have haccepts : b.inbound.accepts = true :=
        h.inbound.accepts_iff.2 (List.ne_nil_of_mem (hmember hc))
      rw [receive_of_open hc]
      simp [Channel.send, haccepts]

/-- What is meant for the dispatcher is what was received and accepted. -/
theorem meantFor_inbound (h : b.Staged)
    (hmember : b.inbound.closed = false → 1 ∈ b.inbound.members) (hd : b.run? es = some d) :
    b.inbound.roll.meantFor 1 (b.observe onInbound es) = b.observe accepted es := by
  induction es generalizing b with
  | nil => rfl
  | cons e es ih =>
      obtain ⟨c, hc, hrun⟩ := run?_cons.1 hd
      -- Only `receive` sends on the inbound channel, whose one member is the dispatcher.
      have hhead : b.inbound.roll.meantFor 1 (b.onInbound e) = b.accepted e := by
        by_cases hreceive : ∃ session payload, e = .receive session payload
        · obtain ⟨session, payload, rfl⟩ := hreceive
          show (if 1 ∈ b.inbound.members then [b.arrival session payload] else []) ++ [] =
            b.accepted (.receive session payload)
          simp only [accepted]
          rw [h.receive_fst hmember, List.append_nil]
          cases hclosed : b.inbound.closed with
          | true => rw [h.inbound.members_of_closed hclosed]; rfl
          | false => rw [if_pos (hmember hclosed)]; rfl
        · have hnone : b.accepted e = [] := by
            cases e with
            | receive session payload => exact absurd ⟨session, payload, rfl⟩ hreceive
            | _ => rfl
          rw [hnone]
          refine Channel.Roll.meantFor_eq_nil_of_no_send fun m hm => ?_
          obtain ⟨session, payload, he, _⟩ := receive_of_onInbound hm
          exact hreceive ⟨session, payload, he⟩
      have hroll := h.inbound.roll_run? (h.inbound_after? hc)
      rw [observe_cons hc, observe_cons hc, Channel.Roll.meantFor_append, hhead, ← hroll,
        ih (h.after? hc) (h.dispatcher_after? hmember hc) hrun]

end Staged

/-! ## The dispatcher at work -/

section Built

variable {config : BusConfig} {mapping : Mapping σ} {groups : List (Group σ)}
  {resolvers : List (ArgumentResolver σ)} {own : List (ReturnHandler σ)} {app : σ} {b₀ : Bus σ}
  (hbuild : build config mapping groups resolvers own app = .ok b₀)

include hbuild

/-- The inbound channel of a bus has run from its creation. -/
theorem inbound_run? (hrun : b₀.run? es = some b) :
    (Channel.new config.inbound).run? (.subscribe :: b₀.observe onInbound es) =
      some b.inbound := by
  have hstaged := (staged_build hbuild).inbound_run? hrun
  obtain ⟨registry, _, rfl⟩ := build_eq_ok hbuild
  exact Channel.run?_cons.2 ⟨_, rfl, hstaged⟩

/-- Every message on the inbound channel is delivered to the dispatcher, which was the first to
subscribe and is the only one. -/
theorem lane_of_delivery? {x : Delivery Inbound} (hrun : b₀.run? es = some b)
    (hx : b.inbound.delivery? n = some x) (hb : x.begun = false) : x.lane = 1 := by
  have hmeant := Channel.mem_meantFor_of_delivery? (inbound_run? hbuild hrun) hx hb
  by_contra hlane
  -- On the roll stands the dispatcher alone, and nobody joins it later.
  have hout : x.lane ∉ (({} : Channel.Roll).after (.subscribe : Channel.Event Inbound)).members :=
    fun hin => hlane (List.mem_singleton.1 hin)
  have hnobody : .subscribe ∉ b₀.observe onInbound es := by
    intro hin
    obtain ⟨_, _, _, _, _, _, hin⟩ := mem_observe hin
    exact subscribe_not_mem_onInbound hin
  have hnil := Channel.Roll.meantFor_eq_nil hout (.inr hnobody)
  rw [show ({} : Channel.Roll).meantFor x.lane (.subscribe :: b₀.observe onInbound es) = [] from
    hnil] at hmeant
  cases hmeant

/-- What begins on the inbound channel is what the dispatcher handles. -/
theorem begun_inbound {before : List Event} (hbefore : b₀.run? before = some b)
    (hd : b.run? es = some d) :
    Channel.begun 1 b.inbound (b.observe onInbound es) =
      (b.observe handles es).map Prod.fst := by
  -- What the dispatcher is given at an event depends on the run before it, which grows with it.
  induction es generalizing b before with
  | nil => rfl
  | cons e es ih =>
      obtain ⟨c, hc, hrun⟩ := run?_cons.1 hd
      have h : b.Staged := (staged_build hbuild).run? hbefore
      have hstep := h.inbound_after? hc
      have hhead : Channel.begun 1 b.inbound (b.onInbound e) = (b.handles e).map Prod.fst := by
        by_cases he : ∃ n, e = .dispatch n
        · obtain ⟨n, rfl⟩ := he
          have hbegin : b.inbound.after? (.begin n) = some c.inbound :=
            Channel.run?_singleton.symm.trans hstep
          obtain ⟨x, hx, hb, _⟩ := Channel.begin?_eq_some hbegin
          have hlane : x.lane = 1 := lane_of_delivery? hbuild hbefore hx hb
          show Channel.observe _ b.inbound [.begin n] = _
          rw [Channel.observe_cons hbegin]
          simp [Channel.begunBy, Channel.observe, handles, hx, messagesFor, hlane]
        · have hnone : b.handles e = [] := by
            cases e with
            | dispatch n => exact absurd ⟨n, rfl⟩ he
            | _ => rfl
          rw [hnone]
          exact Channel.begun_eq_nil fun n hn => he ⟨n, dispatch_of_onInbound hn⟩
      have hafter : b₀.run? (before ++ [e]) = some c :=
        run?_append.2 ⟨b, hbefore, run?_cons.2 ⟨c, hc, rfl⟩⟩
      rw [observe_cons hc, observe_cons hc, List.map_append, ← hhead, ← ih hafter hrun]
      exact Channel.observe_append hstep

/-- A message whose delivery has not begun was received. -/
theorem received_of_delivery? {x : Delivery Inbound} (hrun : b₀.run? es = some b)
    (hx : b.inbound.delivery? n = some x) (hb : x.begun = false) :
    ∃ before session payload since c, es = before ++ .receive session payload :: since ∧
      b₀.run? before = some c ∧ x.message = c.arrival session payload := by
  have hsent := Channel.Roll.send_mem_of_meantFor
    (Channel.mem_meantFor_of_delivery? (inbound_run? hbuild hrun) hx hb)
  rcases List.mem_cons.1 hsent with heq | hsent
  · cases heq
  · obtain ⟨before, e, since, c, rfl, hc, hm⟩ := mem_observe hsent
    obtain ⟨session, payload, rfl, heq⟩ := receive_of_onInbound hm
    exact ⟨before, session, payload, since, c, rfl, hc, heq⟩

/-- Only what is received is handled. -/
theorem received_of_dispatch (hd : b₀.run? es = some d) (hn : .dispatch n ∈ es) :
    ∃ session payload, .receive session payload ∈ es := by
  obtain ⟨before, since, rfl⟩ := List.append_of_mem hn
  obtain ⟨b, hb, hrun⟩ := run?_append.1 hd
  obtain ⟨c, hc, _⟩ := run?_cons.1 hrun
  obtain ⟨⟨outcome, c'⟩, hdispatch, _⟩ := Option.map_eq_some_iff.1 hc
  obtain ⟨x, _, hx, hbegin, _⟩ := dispatch?_eq_some hdispatch
  obtain ⟨x', hx', hunbegun, _⟩ := Channel.begin?_eq_some hbegin
  rw [hx] at hx'
  cases hx'
  obtain ⟨_, session, payload, _, _, rfl, _⟩ := received_of_delivery? hbuild hb hx hunbegun
  exact ⟨session, payload, by simp⟩

/-- Before anything is received, the dispatcher handles nothing. -/
theorem handles_of_no_receive (hrun : b₀.run? es = some b)
    (hnone : ∀ session payload, .receive session payload ∉ es) : b₀.observe handles es = [] := by
  refine List.eq_nil_iff_forall_not_mem.2 fun x hx => ?_
  obtain ⟨before, e, since, c, rfl, _, hx⟩ := mem_observe hx
  cases e with
  | dispatch n =>
      obtain ⟨session, payload, hreceive⟩ := received_of_dispatch hbuild hrun (n := n) (by simp)
      exact hnone session payload hreceive
  | _ => cases hx

end Built

section BuiltIn

variable {registry : Registry σ} {resolvers : List (ArgumentResolver σ)}
  (hown : b.dispatcher = Dispatcher.builtIn registry resolvers)

include hown

/-- Handling a message sends the replies to it, if the outbound channel accepts messages. -/
theorem posted_dispatch (m : Inbound) : b.posted (b.dispatcher.dispatch m) =
    if b.outbound.accepts then b.dispatcher.replies m b.state else [] := by
  unfold posted bench
  rw [hown, Dispatcher.dispatch_withOutbox]
  exact Outbox.sent_sendAll b.outbound.accepts _

theorem repliesTo_eq {x : Delivery Inbound} (hx : b.inbound.delivery? n = some x)
    (haccepts : b.outbound.accepts = true) :
    b.repliesTo n = (b.handles (.dispatch n)).flatMap fun h => b.dispatcher.replies h.1 h.2 := by
  unfold repliesTo
  rw [hx, handles, hx]
  simp [posted_dispatch hown, haccepts]

end BuiltIn

end Bus

end Switchboard
