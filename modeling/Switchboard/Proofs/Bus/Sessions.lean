/-
# Switchboard.Proofs.Bus.Sessions -- what is left of a session that has ended

The end of a session forgets its subscriptions, and these alone. A request of the session for a
subscription that is still on its way then is dispatched afterwards, and it binds the session
again, for nobody remembers that it has ended (`bound_again_late`). A request is on its way also
while it is being delivered, up to the moment of its dispatch.

Apart from that nothing brings a session back. `dispatch_binds` says that a dispatch binds at most
the session of its message, and only by a handler of subscriptions; `unbound_of_endSession` that a
session which has ended while no such request of its own was waiting stays unbound until something
is received on it, and that no broadcast reaches it.

Return handlers of the application may work on the desk as they like, except that none of them
binds the session by itself.
-/

import Switchboard.Proofs.Bus.Conformity
import Switchboard.Proofs.Bus.Traces
import Switchboard.Proofs.Channel.Waiting
import Switchboard.Proofs.Dispatch.Course
import Switchboard.Proofs.Subscriptions.Broadcast

namespace Switchboard

variable {σ : Type}

/-! ## What a dispatch binds -/

/-- From one desk to another a session was not bound to anything. -/
def Desk.BindsNot (session : String) (d d' : Desk σ) : Prop :=
  ∀ method, d'.subscriptions.isBound session method = true →
    d.subscriptions.isBound session method = true

namespace Desk.BindsNot

variable {session : String} {d d' d'' : Desk σ}

theorem of_eq (h : d'.subscriptions = d.subscriptions) : BindsNot session d d' := by
  intro method hbound
  rwa [h] at hbound

theorem trans (h : BindsNot session d d') (h' : BindsNot session d' d'') :
    BindsNot session d d'' := fun method hbound => h method (h' method hbound)

end Desk.BindsNot

namespace ReturnHandler

/-- A return handler does not bind a session. -/
def BindsNot (session : String) (k : ReturnHandler σ) : Prop :=
  ∀ value type request d, Desk.BindsNot session d (k.handle value type request d).2

/-- The library binds a session only for a type that starts a subscription, and only that of the
request. -/
theorem bindSession_bindsNot {session : String} {type : ReturnType} {request : RequestMessage}
    (h : type.subscribeMethod ≠ none → request.headers.sessionId? ≠ some session) (d : Desk σ) :
    Desk.BindsNot session d (bindSession type request d) := by
  unfold bindSession
  split
  · next other method hother htype =>
      intro n hbound
      have hbound : ((d.subscriptions.bind other method).2).isBound session n = true := hbound
      have hne : session ≠ other := by
        rintro rfl
        exact h (by rw [htype]; exact nofun) hother
      rw [Subscriptions.isBound_bind] at hbound
      simpa [hne] using hbound
  · exact .of_eq rfl

end ReturnHandler

namespace Dispatcher

variable {x : Dispatcher σ} {own : List (ReturnHandler σ)} {session : String} {m : Inbound}
  {s s₁ : State σ} {h : Method σ} {i : MethodInfo} {request : RequestMessage} {e : Failure}

/-- A message is a request of a session for a handler of subscriptions. -/
def Subscribes (x : Dispatcher σ) (session : String) (m : Inbound) : Prop :=
  m.headers.sessionId? = some session ∧ ∃ destination r h,
    Envelope.destination? m = some destination ∧ Request.decode m.payload.toDoc = .ok r ∧
    x.registry.get? destination = some h ∧ h.info.kind.notifications? ≠ none

section Own

variable (hx : x.returnHandlers = [.subscribe] ++ own ++ [.response])
  (hown : ∀ k ∈ own, k.BindsNot session)

include hx hown

theorem bindsNot_run {f : Function σ} {params : List Param} {type : ReturnType}
    {provided : List Argument} {d : Desk σ}
    (htype : type.subscribeMethod ≠ none → request.headers.sessionId? ≠ some session) :
    Desk.BindsNot session d (x.run f params type provided request d).2 := by
  cases hinvoke : f.invoke params x.argumentResolvers provided request d.app with
  | mk result app =>
      have happ : Desk.BindsNot session d { d with app } := .of_eq rfl
      cases result with
      | error e =>
          rw [run_of_error type hinvoke]
          exact happ
      | ok v =>
          cases hk : ReturnHandler.own? own type with
          | some k =>
              rw [run_of_own hx hinvoke hk]
              exact happ.trans (hown k (ReturnHandler.mem_of_own? hk) v type request _)
          | none =>
              rw [run_of_library hx hinvoke hk]
              exact happ.trans
                ((ReturnHandler.bindSession_bindsNot htype _).trans (.of_eq rfl))

/-- A dispatch binds no session but that of its message, and that one only by a handler of
subscriptions. -/
theorem dispatch_binds (hnot : ¬x.Subscribes session m) :
    Desk.BindsNot session s.desk (x.dispatch m s).2.desk := by
  refine dispatch_preserves (P := fun t => Desk.BindsNot session s.desk t.desk)
    (fun _ _ ht => ht.trans (.of_eq rfl)) (.of_eq rfl) (fun ht => ht.trans (.of_eq rfl)) ?_ ?_ ?_
  · intro h request hreach hfresh
    refine hfresh.trans (bindsNot_run hx hown fun htype hsession => hnot ?_)
    obtain ⟨destination, r, hto, hr, hget, rfl⟩ := hreach
    rw [Envelope.sessionId?_requestFor] at hsession
    exact ⟨hsession, destination, r, h, hto, hr, hget, htype⟩
  · intro h request e s₁ _ _ hs₁
    rw [desk_chosen?]
    exact hs₁
  · -- Exception handlers start no subscriptions.
    intro i e eh request t ht
    exact ht.trans (bindsNot_run hx hown fun hne => absurd rfl hne)

end Own

end Dispatcher

/-! ## Sessions that are gone -/

namespace Bus

variable {own : List (ReturnHandler σ)} {session : String} {b c d : Bus σ} {e : Event}
  {es : List Event}

/-- A session is gone: it is bound to nothing, and no request of its own for a subscription is on
its way. -/
structure Gone (b : Bus σ) (session : String) : Prop where
  unbound : ∀ method, b.state.desk.subscriptions.isBound session method = false
  quiet : ∀ m ∈ b.inbound.waiting, ¬b.dispatcher.Subscribes session m

/-- The subscriptions after an event. Of all events only a dispatch may bind a session. -/
theorem bindsNot_after? (hx : b.dispatcher.returnHandlers = [.subscribe] ++ own ++ [.response])
    (hown : ∀ k ∈ own, k.BindsNot session)
    (hquiet : ∀ m ∈ b.inbound.waiting, ¬b.dispatcher.Subscribes session m)
    (hd : b.after? e = some d) : Desk.BindsNot session b.state.desk d.state.desk := by
  cases e with
  | receive other payload =>
      cases hd
      cases hclosed : b.inbound.closed with
      | true =>
          rw [receive_of_closed hclosed]
          exact .of_eq rfl
      | false =>
          rw [receive_of_open hclosed]
          exact .of_eq rfl
  | dispatch n =>
      obtain ⟨⟨outcome, d'⟩, hdispatch, rfl⟩ := Option.map_eq_some_iff.1 hd
      obtain ⟨x, c, hx', hc, _, rfl⟩ := dispatch?_eq_some hdispatch
      have hnot := hquiet _ (Channel.mem_waiting_of_begin? hx' hc)
      exact Dispatcher.dispatch_binds (s := b.bench) hx hown hnot
  | endSession other =>
      cases hd
      intro method hbound
      have hbound : (b.state.desk.subscriptions.removeSession other).2.isBound session method =
        true := hbound
      rw [Subscriptions.isBound_removeSession, Bool.and_eq_true] at hbound
      exact hbound.2
  | notify other method params =>
      cases hd
      exact .of_eq rfl
  | broadcast method params =>
      cases hd
      exact .of_eq (Desk.subscriptions_broadcast b.bench.desk method "" params)
  | inbound move => obtain ⟨_, _, rfl⟩ := Option.map_eq_some_iff.1 hd; exact .of_eq rfl
  | outbound move => obtain ⟨_, _, rfl⟩ := Option.map_eq_some_iff.1 hd; exact .of_eq rfl
  | listen n => obtain ⟨_, _, rfl⟩ := Option.map_eq_some_iff.1 hd; exact .of_eq rfl
  | advance i =>
      rcases advance?_eq_some hd with ⟨_, _, _, rfl⟩ | ⟨_, _, _, rfl⟩ <;> exact .of_eq rfl
  | expire i => rcases expire?_eq_some hd with ⟨_, rfl⟩ | ⟨_, rfl⟩ <;> exact .of_eq rfl
  | subscribe => cases hd; exact .of_eq rfl
  | unsubscribe id => cases hd; exact .of_eq rfl
  | shutdown => cases hd; exact .of_eq rfl

/-- No event brings back a session that is gone, except a payload that is received on it. -/
theorem Gone.after? (h : b.Gone session) (hstaged : b.Staged)
    (hx : b.dispatcher.returnHandlers = [.subscribe] ++ own ++ [.response])
    (hown : ∀ k ∈ own, k.BindsNot session) (hd : b.after? e = some d)
    (hreceive : ∀ payload, e ≠ .receive session payload) : d.Gone session := by
  have hdispatcher : d.dispatcher = b.dispatcher :=
    dispatcher_run? (run?_cons.2 ⟨d, hd, (rfl : d.run? [] = some d)⟩)
  constructor
  · intro method
    rw [← Bool.not_eq_true]
    intro hbound
    have hbefore := bindsNot_after? hx hown h.quiet hd method hbound
    rw [h.unbound method] at hbefore
    cases hbefore
  · intro m hm
    rw [hdispatcher]
    rcases Channel.mem_waiting_run? (hstaged.inbound_after? hd) hm with hwaits | hsent
    · exact h.quiet m hwaits
    · -- What was received just now came in on another session.
      obtain ⟨other, payload, rfl, rfl⟩ := receive_of_onInbound hsent
      rintro ⟨hsession, _⟩
      rw [sessionId?_arrival] at hsession
      cases hsession
      exact hreceive payload rfl

theorem Gone.run? (h : b.Gone session) (hstaged : b.Staged)
    (hx : b.dispatcher.returnHandlers = [.subscribe] ++ own ++ [.response])
    (hown : ∀ k ∈ own, k.BindsNot session) (hd : b.run? es = some d)
    (hreceive : ∀ payload, .receive session payload ∉ es) : d.Gone session := by
  induction es generalizing b with
  | nil =>
      cases hd
      exact h
  | cons e es ih =>
      obtain ⟨c, hc, hrun⟩ := run?_cons.1 hd
      have hgone := h.after? hstaged hx hown hc fun payload heq =>
        hreceive payload (by rw [heq]; exact List.mem_cons_self)
      have hdispatcher : c.dispatcher = b.dispatcher :=
        dispatcher_run? (run?_cons.2 ⟨c, hc, (rfl : c.run? [] = some c)⟩)
      refine ih hgone (hstaged.after? hc) (by rw [hdispatcher]; exact hx) hrun ?_
      exact fun payload hmem => hreceive payload (List.mem_cons_of_mem _ hmem)

/-- The messages that a broadcast puts into the outbox. -/
def broadcasts (b : Bus σ) (method : String) (params : Json) : List Outbound :=
  b.posted fun s => s.onDesk fun d => d.broadcast method "" (.ok params)

/-- A broadcast goes to sessions that are bound to its method. -/
theorem isBound_of_broadcasts {method : String} {params : Json} {msg : Outbound}
    (hmsg : msg ∈ b.broadcasts method params) (hsession : msg.headers.sessionId? = some session) :
    b.state.desk.subscriptions.isBound session method = true := by
  have hannounced := Envelope.announces_notices method params b.state.desk.made
    (b.state.desk.subscriptions.sessionsFor method)
  have hmem : msg ∈ b.state.desk.notices method params := by
    rw [broadcasts, posted_broadcast] at hmsg
    split at hmsg
    · exact hmsg
    · cases hmsg
  have hbound : some session ∈ (b.state.desk.subscriptions.sessionsFor method).map some := by
    rw [← hannounced.sessions_eq, ← hsession]
    exact List.mem_map_of_mem hmem
  obtain ⟨t, ht, heq⟩ := List.mem_map.1 hbound
  cases heq
  exact (TextSet.mem_toList_iff _ _).1 ht

/-- A session that ends while no request of its own for a subscription is on its way stays unbound
in all runs in which nothing is received on it, and no broadcast in them goes to it. -/
theorem unbound_of_endSession {config : BusConfig} {mapping : Mapping σ} {groups : List (Group σ)}
    {resolvers : List (ArgumentResolver σ)} {app : σ} {b₀ : Bus σ} {before since : List Event}
    (hbuild : build config mapping groups resolvers own app = .ok b₀)
    (hown : ∀ k ∈ own, k.BindsNot session) (hbefore : b₀.run? before = some b)
    (hwaiting : ∀ m ∈ b.inbound.waiting, ¬b.dispatcher.Subscribes session m)
    (hsince : b.run? (.endSession session :: since) = some d)
    (hreceive : ∀ payload, .receive session payload ∉ since) :
    (∀ method, d.state.desk.subscriptions.isBound session method = false) ∧
    ∀ earlier method params later c, since = earlier ++ .broadcast method params :: later →
      b.run? (.endSession session :: earlier) = some c →
      ∀ msg ∈ c.broadcasts method params, msg.headers.sessionId? ≠ some session := by
  have hstaged : b.Staged := (staged_build hbuild).run? hbefore
  have hx : b.dispatcher.returnHandlers = [.subscribe] ++ own ++ [.response] := by
    obtain ⟨registry, _, hb₀⟩ := build_eq_ok hbuild
    rw [dispatcher_run? hbefore, hb₀]
    rfl
  have hended : (b.endSession session).2.Gone session := by
    refine ⟨fun method => ?_, hwaiting⟩
    show (b.state.desk.subscriptions.removeSession session).2.isBound session method = false
    rw [Subscriptions.isBound_removeSession]
    simp
  have hstagedEnded : (b.endSession session).2.Staged :=
    hstaged.after? (e := .endSession session) rfl
  have hgone : ∀ {es : List Event} {c : Bus σ}, b.run? (.endSession session :: es) = some c →
      (∀ payload, .receive session payload ∉ es) → c.Gone session := by
    intro es c hc hnone
    obtain ⟨_, hfirst, hrun⟩ := run?_cons.1 hc
    cases hfirst
    exact hended.run? hstagedEnded hx hown hrun hnone
  refine ⟨(hgone hsince hreceive).unbound, ?_⟩
  intro earlier method params later c hsplit hc msg hmsg hsession
  have hunbound := (hgone hc fun payload hmem => hreceive payload (by
    rw [hsplit]
    exact List.mem_append_left _ hmem)).unbound method
  rw [isBound_of_broadcasts hmsg hsession] at hunbound
  cases hunbound

/-- A session subscribes, has its answer and ends; then it is bound to nothing. -/
theorem unbound_of_endSession_greeted :
    ∃ b₀ b d, build {} .standard [greeter] [] [] () = .ok b₀ ∧
      b₀.run? [.subscribe, .receive "mine" claim, .inbound (.take 1), .inbound (.lineUp 1),
        .inbound (.acquire 1), .inbound (.handOver 1), .dispatch 0,
        .inbound (.finish 0 .succeeded)] = some b ∧
      b.state.desk.subscriptions.isBound "mine" "greetings" = true ∧
      b.run? [.endSession "mine", .receive "other" claim, .broadcast "greetings" .null] = some d ∧
      d.state.desk.subscriptions.isBound "mine" "greetings" = false := by
  obtain ⟨b₀, b, d, hbuild, hbefore, hwaiting, hbound, hsince⟩ :
      ∃ b₀ b d, build {} .standard [greeter] [] [] () = .ok b₀ ∧
        b₀.run? [.subscribe, .receive "mine" claim, .inbound (.take 1), .inbound (.lineUp 1),
          .inbound (.acquire 1), .inbound (.handOver 1), .dispatch 0,
          .inbound (.finish 0 .succeeded)] = some b ∧
        b.inbound.waiting = [] ∧
        b.state.desk.subscriptions.isBound "mine" "greetings" = true ∧
        b.run? [.endSession "mine", .receive "other" claim, .broadcast "greetings" .null] =
          some d :=
    ⟨_, _, _, rfl, rfl, rfl, rfl, rfl⟩
  have hnone : ∀ m ∈ b.inbound.waiting, ¬b.dispatcher.Subscribes "mine" m := by
    rw [hwaiting]
    exact nofun
  have hgone := unbound_of_endSession hbuild nofun hbefore hnone hsince (by simp)
  exact ⟨b₀, b, d, hbuild, hbefore, hbound, hsince, hgone.1 "greetings"⟩

/-- A session ends after its request for a subscription was received and before it is dispatched:
it is bound then, and a broadcast goes to it. -/
theorem bound_again_late :
    ∃ b₀ b d msg, build {} .standard [greeter] [] [] () = .ok b₀ ∧
      b₀.run? [.subscribe, .receive "mine" claim] = some b ∧
      b.run? [.endSession "mine", .inbound (.take 1), .inbound (.lineUp 1),
        .inbound (.acquire 1), .inbound (.handOver 1), .dispatch 0] = some d ∧
      d.state.desk.subscriptions.isBound "mine" "greetings" = true ∧
      d.broadcasts "greetings" .null = [msg] ∧ msg.headers.sessionId? = some "mine" :=
  ⟨_, _, _, _, rfl, rfl, rfl, rfl, rfl, rfl⟩

end Bus

end Switchboard
