/-
# Switchboard.Proofs.Bus.Shutdown -- a shutdown in good time loses nothing

`Orderly` says how far a single shutdown has come and what is known of the two queues then: the
outbound channel stays open until the inbound one is drained, and the shutdown is over only when
both are. So whatever the dispatcher sends finds the outbound channel open, and when the shutdown
is over everything that was accepted has been handled and everything that was sent has been heard
(`delivered_of_shutdown`), wherever it was when the shutdown began.

Nothing is assumed of the order of the events. The one assumption about time is that no shutdown
runs out of it.
-/

import Switchboard.Proofs.Bus.Traces

namespace Switchboard

namespace Bus

variable {σ : Type} {b c d : Bus σ} {e : Event} {es fs : List Event} {k n : Nat}

/-! ## How far a shutdown has come -/

/-- What holds of a bus as long as no shutdown's time has run out and there was one shutdown at
most. -/
structure Orderly (b : Bus σ) : Prop where
  staged : b.Staged
  /-- The dispatcher is subscribed. -/
  dispatcher : b.inbound.closed = false → 1 ∈ b.inbound.members
  /-- Without a shutdown both channels are open. -/
  fresh : b.shutdowns = [] → b.inbound.closed = false ∧ b.outbound.closed = false
  /-- At first the outbound channel stays open. -/
  first : ∀ waits, b.shutdowns = [.closingInbound waits] →
    waits = true ∧ b.outbound.closed = false
  /-- It is closed when the inbound one is drained. -/
  second : ∀ waits, b.shutdowns = [.closingOutbound waits] →
    waits = true ∧ b.inbound.isDrained = true
  /-- In the end both are drained. -/
  last : b.shutdowns = [.over] → b.inbound.isDrained = true ∧ b.outbound.isDrained = true

theorem orderly_build {config : BusConfig} {mapping : Mapping σ} {groups : List (Group σ)}
    {resolvers : List (ArgumentResolver σ)} {own : List (ReturnHandler σ)} {app : σ}
    (h : build config mapping groups resolvers own app = .ok b) : b.Orderly := by
  have hstaged := staged_build h
  obtain ⟨registry, _, rfl⟩ := build_eq_ok h
  exact
    { staged := hstaged
      dispatcher := fun _ => List.mem_singleton_self _
      fresh := fun _ => ⟨rfl, rfl⟩
      first := nofun
      second := nofun
      last := nofun }

/-- Where one element of a list is exchanged and one element remains, there was one. -/
theorem eq_singleton_of_set {α : Type} {xs : List α} {i : Nat} {s t u : α} (hi : xs[i]? = some s)
    (h : xs.set i t = [u]) : xs = [s] ∧ t = u := by
  match xs, i with
  | [], _ => cases hi
  | [x], 0 =>
      cases hi
      exact ⟨rfl, (List.cons.inj h).1⟩
  | [x], i + 1 => cases hi
  | x :: y :: zs, i =>
      have hlength := congrArg List.length h
      simp at hlength

/-- The outbound channel is closed when a shutdown goes on. -/
theorem Staged.outbound_closed_after? (h : b.Staged) (hd : b.after? e = some d)
    (hadvance : ∀ i, e ≠ .advance i) (hexpire : ∀ i, e ≠ .expire i) :
    d.outbound.closed = b.outbound.closed := by
  rw [Bool.eq_iff_iff, h.outbound.closed_run? (h.outbound_after? hd)]
  refine or_iff_left fun hclose => ?_
  obtain ⟨i, he | he⟩ := advance_or_expire_of_onOutbound hclose
  · exact hadvance i he
  · exact hexpire i he

namespace Orderly

/-- A channel that a shutdown has drained stays so. -/
theorem drained_after? (h : b.Orderly) (hd : b.after? e = some d) :
    (b.inbound.closed = true → b.inbound.isDrained = true → d.inbound.isDrained = true) ∧
    (b.outbound.closed = true → b.outbound.isDrained = true → d.outbound.isDrained = true) :=
  ⟨fun hc hb => Channel.isDrained_run? h.staged.inbound hc hb (h.staged.inbound_after? hd),
    fun hc hb => Channel.isDrained_run? h.staged.outbound hc hb (h.staged.outbound_after? hd)⟩

/-- A shutdown of a bus without one begins with open channels. -/
theorem beginShutdown (h : b.Orderly) : b.beginShutdown.Orderly := by
  have hd : b.after? .shutdown = some b.beginShutdown := rfl
  have houtbound := h.staged.outbound_closed_after? hd nofun nofun
  -- If there is one shutdown afterwards, there was none before.
  have hone : ∀ s, b.beginShutdown.shutdowns = [s] →
      b.shutdowns = [] ∧ s = .closingInbound b.inbound.close.1 := by
    intro s hs
    have hs : b.shutdowns ++ [.closingInbound b.inbound.close.1] = [s] := hs
    have hnil : b.shutdowns = [] := by
      have hlength := congrArg List.length hs
      exact List.length_eq_zero_iff.1 (by simpa using hlength)
    rw [hnil] at hs
    exact ⟨hnil, (List.cons.inj hs).1.symm⟩
  refine { staged := h.staged.after? hd
           dispatcher := h.staged.dispatcher_after? h.dispatcher hd
           fresh := ?_, first := ?_, second := ?_, last := ?_ }
  · exact fun hnil => absurd hnil (by simp [Bus.beginShutdown])
  · intro waits heq
    obtain ⟨hnil, hs⟩ := hone _ heq
    obtain ⟨hopen, houtOpen⟩ := h.fresh hnil
    rw [Channel.close_fst, hopen] at hs
    cases hs
    exact ⟨rfl, houtbound.trans houtOpen⟩
  · exact fun waits heq => absurd (hone _ heq).2 nofun
  · exact fun heq => absurd (hone _ heq).2 nofun

/-- A shutdown goes on when the channel for which it waits is drained. -/
theorem advance? {i : Nat} (h : b.Orderly) (hd : b.after? (.advance i) = some d) :
    d.Orderly := by
  have hstaged := h.staged.after? hd
  have hdispatcher := h.staged.dispatcher_after? h.dispatcher hd
  rcases advance?_eq_some hd with ⟨waits, hi, hreturn, rfl⟩ | ⟨waits, hi, hreturn, rfl⟩
  · refine { staged := hstaged, dispatcher := hdispatcher, fresh := ?_, first := ?_
             second := ?_, last := ?_ }
    · intro hnil
      rw [(List.set_eq_nil_iff _ _).1 hnil] at hi
      cases hi
    · exact fun w heq => absurd (eq_singleton_of_set hi heq).2 nofun
    · intro w heq
      -- It waited for the inbound channel, so that is drained now, and finds the other one open.
      obtain ⟨hone, hw⟩ := eq_singleton_of_set hi heq
      obtain ⟨rfl, hopen⟩ := h.first waits hone
      rw [Channel.close_fst, hopen] at hw
      cases hw
      exact ⟨rfl, hreturn⟩
    · exact fun heq => absurd (eq_singleton_of_set hi heq).2 nofun
  · refine { staged := hstaged, dispatcher := hdispatcher, fresh := ?_, first := ?_
             second := ?_, last := ?_ }
    · intro hnil
      rw [(List.set_eq_nil_iff _ _).1 hnil] at hi
      cases hi
    · exact fun w heq => absurd (eq_singleton_of_set hi heq).2 nofun
    · exact fun w heq => absurd (eq_singleton_of_set hi heq).2 nofun
    · intro heq
      obtain ⟨hone, _⟩ := eq_singleton_of_set hi heq
      obtain ⟨rfl, hdrained⟩ := h.second waits hone
      exact ⟨hdrained, hreturn⟩

/-- No other event has a say in how far a shutdown has come. -/
theorem after?_of_other (h : b.Orderly) (hd : b.after? e = some d) (hshutdown : e ≠ .shutdown)
    (hadvance : ∀ i, e ≠ .advance i) (hexpire : ∀ i, e ≠ .expire i) : d.Orderly := by
  obtain ⟨hin, hout⟩ := h.drained_after? hd
  have hsame := shutdowns_after? hd hshutdown hadvance hexpire
  have houtbound := h.staged.outbound_closed_after? hd hadvance hexpire
  have hinbound := h.staged.inbound_closed_eq hd hshutdown
  have hinClosed : ∀ {s}, b.shutdowns = [s] → b.inbound.closed = true :=
    fun hs => h.staged.inbound_closed (by simp [hs])
  refine { staged := h.staged.after? hd
           dispatcher := h.staged.dispatcher_after? h.dispatcher hd
           fresh := ?_, first := ?_, second := ?_, last := ?_ }
  all_goals rw [hsame]
  · intro hnil
    rw [hinbound, houtbound]
    exact h.fresh hnil
  · intro waits heq
    rw [houtbound]
    exact h.first waits heq
  · intro waits heq
    obtain ⟨hwaits, hdrained⟩ := h.second waits heq
    exact ⟨hwaits, hin (hinClosed heq) hdrained⟩
  · intro heq
    obtain ⟨hdrained, hdrained'⟩ := h.last heq
    have hclosed := h.staged.outbound_closed .over (by simp [heq]) nofun
    exact ⟨hin (hinClosed heq) hdrained, hout hclosed hdrained'⟩

/-- Every event keeps the order, unless a shutdown's time runs out. -/
theorem after? (h : b.Orderly) (hexpire : ∀ i, e ≠ .expire i) (hd : b.after? e = some d) :
    d.Orderly := by
  cases e with
  | shutdown =>
      cases hd
      exact h.beginShutdown
  | advance i => exact h.advance? hd
  | expire i => exact absurd rfl (hexpire i)
  | _ => exact h.after?_of_other hd nofun nofun nofun

/-- Every run keeps the order, unless a shutdown's time runs out. -/
theorem run? (h : b.Orderly) (hexpire : ∀ i, .expire i ∉ es) (hd : b.run? es = some d) :
    d.Orderly := by
  induction es generalizing b with
  | nil => cases hd; exact h
  | cons e es ih =>
      obtain ⟨c, hc, hrun⟩ := run?_cons.1 hd
      have he : ∀ i, e ≠ .expire i := by
        rintro i rfl
        exact hexpire i List.mem_cons_self
      exact ih (h.after? he hc) (fun i hi => hexpire i (List.mem_cons_of_mem _ hi)) hrun

/-- As long as a message is being delivered to the dispatcher, the outbound channel is open. -/
theorem outbound_open (h : b.Orderly) (hlength : b.shutdowns.length ≤ 1) {x : Delivery Inbound}
    (hx : b.inbound.delivery? n = some x) : b.outbound.closed = false := by
  -- A drained channel delivers nothing, so the shutdown is not past the inbound one.
  have hbusy : b.inbound.isDrained = false := by
    by_contra hdrained
    have hnil := (Channel.isDrained_iff.1 (by simpa using hdrained)).2
    have hmem := Channel.mem_of_delivery? hx
    rw [hnil] at hmem
    cases hmem
  match hs : b.shutdowns with
  | [] => exact (h.fresh hs).2
  | [.closingInbound waits] => exact (h.first waits hs).2
  | [.closingOutbound waits] =>
      have hdrained := (h.second waits hs).2
      rw [hbusy] at hdrained
      cases hdrained
  | [.over] =>
      have hdrained := (h.last hs).1
      rw [hbusy] at hdrained
      cases hdrained
  | _ :: _ :: _ => simp [hs] at hlength

end Orderly

/-- Shutdowns are never forgotten. -/
theorem length_shutdowns_run? (hd : b.run? es = some d) :
    b.shutdowns.length ≤ d.shutdowns.length := by
  induction es generalizing b with
  | nil => cases hd; exact Nat.le_refl _
  | cons e es ih =>
      obtain ⟨c, hc, hrun⟩ := run?_cons.1 hd
      refine Nat.le_trans ?_ (ih hrun)
      cases e with
      | shutdown =>
          cases hc
          simp [beginShutdown]
      | advance i =>
          rcases advance?_eq_some hc with ⟨_, _, _, rfl⟩ | ⟨_, _, _, rfl⟩
          · simp
          · simp
      | expire i =>
          rcases expire?_eq_some hc with ⟨_, rfl⟩ | ⟨_, rfl⟩
          · simp
          · simp
      | _ => exact Nat.le_of_eq (congrArg List.length (shutdowns_after? hc nofun nofun nofun)).symm

namespace Staged

/-- Nothing is given up on the inbound channel, unless a shutdown's time runs out. -/
theorem inbound_kept (h : b.Staged) (hexpire : ∀ i, .expire i ∉ es) (hd : b.run? es = some d)
    (hb : b.inbound.cancelled = false) : d.inbound.cancelled = false := by
  refine (Channel.not_cancelled_run? (h.inbound_run? hd)).2 ⟨hb, fun hc => ?_⟩
  obtain ⟨_, e, _, _, rfl, _, hcancel⟩ := mem_observe hc
  obtain ⟨i, rfl⟩ := expire_of_onInbound hcancel
  exact hexpire i (by simp)

/-- Nor is anything on the outbound channel. -/
theorem outbound_kept (h : b.Staged) (hexpire : ∀ i, .expire i ∉ es) (hd : b.run? es = some d)
    (hb : b.outbound.cancelled = false) : d.outbound.cancelled = false := by
  refine (Channel.not_cancelled_run? (h.outbound_run? hd)).2 ⟨hb, fun hc => ?_⟩
  obtain ⟨_, e, _, _, rfl, _, hcancel⟩ := mem_observe hc
  obtain ⟨i, rfl⟩ := expire_of_onOutbound hcancel
  exact hexpire i (by simp)

/-- A shutdown does not get stuck: when both channels have come to rest, it goes on. -/
theorem advance?_ne_none {i : Nat} {s : Shutdown} (h : b.Staged)
    (hin : b.inbound.cancelled = false) (hout : b.outbound.cancelled = false)
    (hinQuiet : b.inbound.Quiet) (houtQuiet : b.outbound.Quiet) (hs : b.shutdowns[i]? = some s)
    (hnot : s ≠ .over) : b.advance? i ≠ none := by
  have hmem := List.mem_of_getElem? hs
  cases s with
  | closingInbound waits =>
      have hclosed := h.inbound_closed (List.ne_nil_of_mem hmem)
      have hdrained := h.inbound.isDrained_of_quiet hclosed hin hinQuiet
      simp [advance?, hs, Channel.mayReturn, hdrained]
  | closingOutbound waits =>
      have hclosed := h.outbound_closed _ hmem nofun
      have hdrained := h.outbound.isDrained_of_quiet hclosed hout houtQuiet
      simp [advance?, hs, Channel.mayReturn, hdrained]
  | «over» => exact absurd rfl hnot

end Staged

/-! ## What is meant for whom on a bus -/

theorem not_expire_of_isOrdinary (h : ∀ e ∈ es, e.isOrdinary = true) (i : Nat) :
    .expire i ∉ es := by
  intro hi
  cases h _ hi

namespace Orderly

/-- What is meant for a subscriber that stays are the replies to what the dispatcher handles. -/
theorem meantFor_outbound {registry : Registry σ} {resolvers : List (ArgumentResolver σ)}
    (h : b.Orderly) (hown : b.dispatcher = Dispatcher.builtIn registry resolvers)
    (hk : b.outbound.closed = false → k ∈ b.outbound.members)
    (hordinary : ∀ e ∈ es, e.isOrdinary = true) (hstay : .unsubscribe k ∉ es)
    (hd : b.run? es = some d) (hlength : d.shutdowns.length ≤ 1) :
    b.outbound.roll.meantFor k (b.observe onOutbound es) =
      (b.observe handles es).flatMap fun x => b.dispatcher.replies x.1 x.2 := by
  induction es generalizing b with
  | nil => rfl
  | cons e es ih =>
      obtain ⟨c, hc, hrun⟩ := run?_cons.1 hd
      have he : ∀ i, e ≠ .expire i := by
        rintro i rfl
        cases hordinary _ List.mem_cons_self
      have hhead : b.outbound.roll.meantFor k (b.onOutbound e) =
          (b.handles e).flatMap fun x => b.dispatcher.replies x.1 x.2 := by
        by_cases hdispatch : ∃ n, e = .dispatch n
        · obtain ⟨n, rfl⟩ := hdispatch
          obtain ⟨⟨outcome, c'⟩, hdispatch, _⟩ := Option.map_eq_some_iff.1 hc
          obtain ⟨x, _, hx, _⟩ := dispatch?_eq_some hdispatch
          -- The outbound channel is still open, and so the subscriber is still there.
          have hone : b.shutdowns.length ≤ 1 := Nat.le_trans (length_shutdowns_run? hd) hlength
          have hmember := hk (h.outbound_open hone hx)
          have haccepts := h.staged.outbound.accepts_iff.2 (List.ne_nil_of_mem hmember)
          rw [← repliesTo_eq hown hx haccepts]
          exact Channel.Roll.meantFor_map_send hmember _
        · have hnone : b.handles e = [] := by
            cases e with
            | dispatch n => exact absurd ⟨n, rfl⟩ hdispatch
            | _ => rfl
          rw [hnone]
          refine Channel.Roll.meantFor_eq_nil_of_no_send fun m hm => hdispatch ?_
          exact dispatch_of_onOutbound hm (hordinary e List.mem_cons_self)
      have hroll := h.staged.outbound.roll_run? (h.staged.outbound_after? hc)
      have hsame : c.dispatcher = b.dispatcher :=
        dispatcher_run? (run?_cons.2 ⟨c, hc, rfl⟩ : b.run? [e] = some c)
      have hmember : c.outbound.closed = false → k ∈ c.outbound.members := by
        refine h.staged.outbound.member_run? (h.staged.outbound_after? hc) hk fun hleave => hstay ?_
        rw [unsubscribe_of_onOutbound hleave]
        exact List.mem_cons_self
      rw [observe_cons hc, observe_cons hc, Channel.Roll.meantFor_append, hhead, ← hroll,
        List.flatMap_append,
        ih (h.after? he hc) (hsame.trans hown) hmember
          (fun e he => hordinary e (List.mem_cons_of_mem _ he))
          (fun hin => hstay (List.mem_cons_of_mem _ hin)) hrun, hsame]

end Orderly

/-! ## Nothing is lost -/

/-- What a subscriber `k` of the outbound channel can rely on when the events `es` have led to the
end of a shutdown. -/
structure Delivered (config : BusConfig) (b₀ : Bus σ) (es : List Event) (k : Nat) : Prop where
  /-- Every call to receive was accepted before the shutdown began, and none was afterwards. -/
  receive_eq : ∀ before session payload since b, es = before ++ .receive session payload :: since →
    b₀.run? before = some b → (b.receive session payload).1 =
      if .shutdown ∈ before then .error (.channelClosed config.inbound.name) else .ok true
  /-- Every message that was accepted has been handled, once each, and nothing else has. -/
  handles_perm : ((b₀.observe handles es).map Prod.fst).Perm (b₀.observe accepted es)
  /-- What was handed to workers for the subscriber is what the dispatcher sent, in order. -/
  handed_eq : Channel.handed k b₀.outbound (b₀.observe onOutbound es) =
    (b₀.observe handles es).flatMap fun x => b₀.dispatcher.replies x.1 x.2
  /-- The subscriber has handled all of that, once each, and nothing else. -/
  heard_perm : (b₀.observe (heard k) es).Perm
    ((b₀.observe handles es).flatMap fun x => b₀.dispatcher.replies x.1 x.2)
  /-- For a payload that is owed a reply the dispatcher sends one response. -/
  replies_of_owed : ∀ m s, Envelope.owesReply m.payload = true → ∃ msg response,
    b₀.dispatcher.replies m s = [msg] ∧ msg.payload = .response response
  /-- For any other it sends nothing. -/
  replies_of_not_owed : ∀ m s, Envelope.owesReply m.payload = false →
    b₀.dispatcher.replies m s = []
  /-- So the subscriber has heard as many messages as replies were owed. -/
  length_heard : (b₀.observe (heard k) es).length =
    (b₀.observe accepted es).countP fun m => Envelope.owesReply m.payload

section Built

variable {config : BusConfig} {mapping : Mapping σ} {groups : List (Group σ)}
  {resolvers : List (ArgumentResolver σ)} {app : σ} {b₀ : Bus σ} {before after : List Event}

/-- A bus without return handlers of the application has a built-in dispatcher. -/
theorem dispatcher_build (hbuild : build config mapping groups resolvers [] app = .ok b₀) :
    ∃ registry, b₀.dispatcher = Dispatcher.builtIn registry resolvers := by
  obtain ⟨registry, _, rfl⟩ := build_eq_ok hbuild
  exact ⟨registry, rfl⟩

/-- Calls are accepted until the shutdown begins. -/
theorem receive_eq_of_run? (hbuild : build config mapping groups resolvers [] app = .ok b₀)
    (hexpire : ∀ i, .expire i ∉ es) (hrun : b₀.run? es = some b) (session : String)
    (payload : Json) : (b.receive session payload).1 =
      if .shutdown ∈ es then .error (.channelClosed config.inbound.name) else .ok true := by
  have horderly := (orderly_build hbuild).run? hexpire hrun
  have hname : b.inbound.config = config.inbound := by
    have hinbound := (staged_build hbuild).inbound_run? hrun
    obtain ⟨registry, _, rfl⟩ := build_eq_ok hbuild
    exact Channel.config_run? hinbound
  have hclosed : b.inbound.closed = true ↔ .shutdown ∈ es := by
    rw [(staged_build hbuild).inbound_closed_run? hrun]
    obtain ⟨registry, _, rfl⟩ := build_eq_ok hbuild
    exact or_iff_right nofun
  rw [horderly.staged.receive_fst horderly.dispatcher, hname]
  simp only [hclosed]

/-- Before anything is received, nothing is sent, unless somebody is notified. -/
theorem no_send_of_no_receive (hbuild : build config mapping groups resolvers [] app = .ok b₀)
    (hrun : b₀.run? before = some b) (hnone : ∀ session payload, .receive session payload ∉ before)
    (hordinary : ∀ e ∈ before, e.isOrdinary = true) (msg : Outbound) :
    .send msg ∉ b₀.observe onOutbound before := by
  intro hmsg
  obtain ⟨pre, e, post, c, rfl, _, hmsg⟩ := mem_observe hmsg
  obtain ⟨n, rfl⟩ := dispatch_of_onOutbound hmsg (hordinary e (by simp))
  obtain ⟨session, payload, hreceive⟩ := received_of_dispatch hbuild hrun (n := n) (by simp)
  exact hnone session payload hreceive

/-- Replies are counted by the payloads that are owed one. -/
theorem length_replies (registry : Registry σ) (resolvers : List (ArgumentResolver σ))
    (xs : List (Inbound × Dispatcher.State σ)) :
    (xs.flatMap fun x => (Dispatcher.builtIn registry resolvers).replies x.1 x.2).length =
      (xs.map Prod.fst).countP fun m => Envelope.owesReply m.payload := by
  induction xs with
  | nil => rfl
  | cons x xs ih =>
      rw [List.flatMap_cons, List.length_append, ih, List.map_cons, List.countP_cons]
      rcases Dispatcher.replies_cases registry resolvers x.1 x.2 with
        ⟨howed, msg, _, heq, _⟩ | ⟨howed, heq⟩
      · rw [heq, howed, if_pos rfl]
        exact Nat.add_comm _ _
      · rw [heq, howed, if_neg nofun]
        exact Nat.zero_add _

/-- When the inbound channel was drained, all that was accepted has been handled. -/
theorem handles_perm_of_isDrained (hbuild : build config mapping groups resolvers [] app = .ok b₀)
    (hexpire : ∀ i, .expire i ∉ es) (hrun : b₀.run? es = some d)
    (hdrained : d.inbound.isDrained = true) :
    ((b₀.observe handles es).map Prod.fst).Perm (b₀.observe accepted es) := by
  have hstaged := staged_build hbuild
  obtain ⟨hpending, hrunning, hkept⟩ : b₀.inbound.pending 1 = [] ∧ b₀.inbound.running = [] ∧
      b₀.inbound.cancelled = false := by
    obtain ⟨registry, _, rfl⟩ := build_eq_ok hbuild
    exact ⟨rfl, rfl, rfl⟩
  have hbegun := (hstaged.inbound.handed_of_isDrained hpending hrunning
    (hstaged.inbound_run? hrun) (hstaged.inbound_kept hexpire hrun hkept) hdrained).2
  rw [begun_inbound hbuild (show b₀.run? [] = some b₀ from rfl) hrun,
    hstaged.meantFor_inbound (orderly_build hbuild).dispatcher hrun] at hbegun
  exact hbegun

/-- All that is meant for a subscriber that was there before anything was received, and stays, are
the replies. -/
theorem meantFor_eq_replies (hbuild : build config mapping groups resolvers [] app = .ok b₀)
    (hbefore : b₀.run? before = some b) (hk : k ∈ b.outbound.members)
    (hnone : ∀ session payload, .receive session payload ∉ before)
    (hafter : b.run? after = some d) (hstay : .unsubscribe k ∉ after)
    (hordinary : ∀ e ∈ before ++ after, e.isOrdinary = true)
    (hlength : d.shutdowns.length ≤ 1) :
    b₀.outbound.roll.meantFor k (b₀.observe onOutbound (before ++ after)) =
      (b₀.observe handles (before ++ after)).flatMap
        fun x => b₀.dispatcher.replies x.1 x.2 := by
  obtain ⟨registry, hown⟩ := dispatcher_build hbuild
  have hexpire := not_expire_of_isOrdinary hordinary
  -- Until somebody is there to hear it, nothing is sent.
  have hquiet := handles_of_no_receive hbuild hbefore hnone
  have hsend := no_send_of_no_receive hbuild hbefore hnone
    fun e he => hordinary e (List.mem_append_left _ he)
  have hmiddle : b.Orderly :=
    (orderly_build hbuild).run? (fun i hi => hexpire i (List.mem_append_left _ hi)) hbefore
  have hstaged := staged_build hbuild
  have hroll := hstaged.outbound.roll_run? (hstaged.outbound_run? hbefore)
  have hsame := dispatcher_run? hbefore
  rw [observe_append hbefore, observe_append hbefore, hquiet, List.nil_append,
    Channel.Roll.meantFor_append, Channel.Roll.meantFor_eq_nil_of_no_send hsend,
    List.nil_append, ← hroll, ← hsame]
  exact hmiddle.meantFor_outbound (hsame.trans hown) (fun _ => hk)
    (fun e he => hordinary e (List.mem_append_right _ he)) hstay hafter hlength

/-- When a shutdown in good time is over, a subscriber that was there before anything was received,
and stayed, has been given the replies to everything that was accepted, once each, and nothing
else. -/
theorem delivered_of_shutdown (hbuild : build config mapping groups resolvers [] app = .ok b₀)
    (hbefore : b₀.run? before = some b) (hk : k ∈ b.outbound.members)
    (hnone : ∀ session payload, .receive session payload ∉ before)
    (hafter : b.run? after = some d) (hstay : .unsubscribe k ∉ after)
    (hordinary : ∀ e ∈ before ++ after, e.isOrdinary = true) (hover : d.shutdowns = [.over]) :
    Delivered config b₀ (before ++ after) k := by
  obtain ⟨registry, hown⟩ := dispatcher_build hbuild
  have hstaged := staged_build hbuild
  have hexpire := not_expire_of_isOrdinary hordinary
  have hrun : b₀.run? (before ++ after) = some d := run?_append.2 ⟨b, hbefore, hafter⟩
  obtain ⟨hinDrained, houtDrained⟩ := ((orderly_build hbuild).run? hexpire hrun).last hover
  -- The inbound channel is drained first: all that was accepted has been dispatched, so that what
  -- was sent on the outbound channel is complete when that one is drained in its turn.
  have hhandles := handles_perm_of_isDrained hbuild hexpire hrun hinDrained
  obtain ⟨hpending, hrunning, hkept⟩ : b₀.outbound.pending k = [] ∧ b₀.outbound.running = [] ∧
      b₀.outbound.cancelled = false := by
    obtain ⟨registry, _, rfl⟩ := build_eq_ok hbuild
    exact ⟨rfl, rfl, rfl⟩
  obtain ⟨hhanded, hbegun⟩ := hstaged.outbound.handed_of_isDrained hpending hrunning
    (hstaged.outbound_run? hrun) (hstaged.outbound_kept hexpire hrun hkept) houtDrained
  have hmeant := meantFor_eq_replies hbuild hbefore hk hnone hafter hstay hordinary
    (by simp [hover])
  rw [hmeant] at hhanded hbegun
  rw [hstaged.begun_outbound hrun] at hbegun
  refine
    { receive_eq := ?_, handles_perm := hhandles, handed_eq := hhanded, heard_perm := hbegun
      replies_of_owed := ?_, replies_of_not_owed := ?_, length_heard := ?_ }
  · intro pre session payload since c heq hc
    exact receive_eq_of_run? hbuild (fun i hi => hexpire i (by simp [heq, hi])) hc _ _
  · intro m s howed
    rw [hown]
    rcases Dispatcher.replies_cases registry resolvers m s with ⟨_, hone⟩ | ⟨hnot, _⟩
    · exact hone
    · rw [howed] at hnot
      cases hnot
  · intro m s howed
    rw [hown]
    rcases Dispatcher.replies_cases registry resolvers m s with ⟨hnot, _⟩ | ⟨_, hnil⟩
    · rw [howed] at hnot
      cases hnot
    · exact hnil
  · rw [hbegun.length_eq, hown, length_replies, hhandles.countP_eq]

end Built

/-- A request and a call that wants no answer. -/
def callsInTime : List Event :=
  [.receive "one" (.object [("id", .integer 7), ("method", .string "nothing")]),
    .receive "two" (.object [("method", .string "nothing")])]

/-- Both are still queued when the shutdown begins. -/
def queuedShutdown : List Event :=
  callsInTime ++ [.shutdown,
    .inbound (.take 1), .inbound (.lineUp 1), .inbound (.acquire 1), .inbound (.handOver 1),
    .dispatch 0, .inbound (.finish 0 .succeeded), .receive "three" (.object []),
    .inbound (.take 1), .inbound (.lineUp 1), .inbound (.acquire 1), .inbound (.handOver 1),
    .dispatch 1, .inbound (.finish 1 .failed), .inbound (.leave 1), .advance 0,
    .outbound (.take 1), .outbound (.lineUp 1), .outbound (.acquire 1), .outbound (.handOver 1),
    .listen 0, .outbound (.finish 0 .succeeded), .outbound (.leave 1), .advance 0]

/-- The subscriber hears the one answer that is owed. -/
theorem delivered_queuedShutdown :
    ∃ b₀ b d : Bus Unit, build {} .standard [] [] [] () = .ok b₀ ∧
      b₀.run? [.subscribe] = some b ∧ b.run? queuedShutdown = some d ∧
      d.shutdowns = [.over] ∧ Delivered {} b₀ ([.subscribe] ++ queuedShutdown) 1 := by
  have hend : (match build {} .standard [] [] [] () with
      | .ok b₀ => (b₀.run? [.subscribe]).bind fun b =>
          (b.run? queuedShutdown).map fun d => (b.outbound.members, d.shutdowns)
      | .error _ => none) = some ([1], [.over]) := by decide +kernel
  cases hbuild : build {} .standard [] [] [] () with
  | error e =>
      rw [hbuild] at hend
      cases hend
  | ok b₀ =>
      rw [hbuild] at hend
      obtain ⟨b, hbefore, hend⟩ := Option.bind_eq_some_iff.1 hend
      obtain ⟨d, hafter, hend⟩ := Option.map_eq_some_iff.1 hend
      obtain ⟨hmember, hover⟩ := Prod.mk.inj hend
      have hdelivered := delivered_of_shutdown (k := 1) hbuild hbefore (by simp [hmember])
        (fun _ _ h => by cases List.mem_singleton.1 h) hafter (by decide) (by decide) hover
      exact ⟨b₀, b, d, rfl, hbefore, hafter, hover, hdelivered⟩

end Bus

end Switchboard
