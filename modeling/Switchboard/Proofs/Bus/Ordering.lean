/-
# Switchboard.Proofs.Bus.Ordering -- responses in the order of their requests

Two queues, two pools of permits and the dispatcher in between lie on the way from a request to the
handling of its response. Where either channel has one permit, none of them changes the order:

* the dispatcher begins what was accepted, in order, for one inbound delivery runs at a time;
* what it sends for a message is at most one response, and it sends it while it handles it;
* a subscriber that was there from the start is given all that is sent as long as it stays, and it
  is done with one delivery before the next one starts.

Notifications go the same way and may stand anywhere between the responses, so they are left out of
what is compared. `InOrder` says what this comes to, `inOrder_of_run?` that every run keeps it: with
shutdowns or without, also when a shutdown's time runs out.
-/

import Switchboard.Proofs.Bus.Shutdown
import Switchboard.Proofs.Channel.Permits
import Switchboard.Proofs.Subscriptions.Broadcast

namespace Switchboard

namespace Bus

open Channel (messagesFor)

variable {σ : Type} {b c d : Bus σ} {e : Event} {es fs : List Event} {id k n : Nat}

/-! ## What is seen -/

/-- Whether an outbound message is a response. -/
def isResponse (m : Outbound) : Bool := m.payload.response?.isSome

/-- The responses among some messages. -/
def responses (ms : List Outbound) : List Outbound := ms.filter isResponse

theorem responses_append (ms ns : List Outbound) :
    responses (ms ++ ns) = responses ms ++ responses ns :=
  List.filter_append ms ns

/-- The messages that the dispatcher handles, each with what it sends for it. -/
def replied (b : Bus σ) : Event → List (Inbound × List Outbound)
  | .dispatch n => (b.inbound.delivery? n).toList.map fun x => (x.message, b.repliesTo n)
  | _ => []

/-- The messages that a subscriber of the outbound channel is done with. -/
def completed (id : Nat) (b : Bus σ) : Event → List Outbound
  | .outbound (.finish n _) => messagesFor id (b.outbound.delivery? n).toList
  | _ => []

theorem finish_of_onOutbound {ending : Ending} (h : .finish n ending ∈ b.onOutbound e) :
    e = .outbound (.finish n ending) := by
  have hmove : ∃ move : Channel.Move, e = .outbound move ∧
      (.finish n ending : Channel.Event Outbound) = move.event := by
    simpa using onOutbound_cases h
  obtain ⟨move, rfl, heq⟩ := hmove
  cases move with
  | finish m ending' =>
      cases heq
      rfl
  | _ => cases heq

/-- What a subscriber is done with on the outbound channel is what is seen of it on the bus. -/
theorem Staged.finished_outbound (h : b.Staged) (hd : b.run? es = some d) :
    Channel.finished id b.outbound (b.observe onOutbound es) = b.observe (completed id) es := by
  refine observe_outbound (fun {b d e} h hd => ?_) h hd
  by_cases he : ∃ n ending, e = .outbound (.finish n ending)
  · obtain ⟨n, ending, rfl⟩ := he
    have hfinish : b.outbound.after? (.finish n ending) = some d.outbound :=
      Channel.run?_singleton.symm.trans (h.outbound_after? hd)
    show Channel.observe _ b.outbound [.finish n ending] = _
    rw [Channel.observe_cons hfinish]
    exact List.append_nil _
  · have hnone : b.completed id e = [] := by
      unfold completed
      split
      · next n ending => exact absurd ⟨n, ending, rfl⟩ he
      · rfl
    rw [hnone]
    exact Channel.finished_eq_nil fun n ending hn => he ⟨n, ending, finish_of_onOutbound hn⟩

/-- What the dispatcher handles is seen with or without what it sends. -/
theorem map_fst_replied (es : List Event) :
    (b.observe replied es).map Prod.fst = (b.observe handles es).map Prod.fst := by
  induction es generalizing b with
  | nil => rfl
  | cons e es ih =>
      cases hd : b.after? e with
      | none => simp [observe, hd]
      | some d =>
          have hhead : (b.replied e).map Prod.fst = (b.handles e).map Prod.fst := by
            cases e with
            | dispatch n => simp [replied, handles]
            | _ => rfl
          rw [observe_cons hd, observe_cons hd, List.map_append, List.map_append, hhead, ih]

/-! ## What the dispatcher sends -/

/-- What is sent outside of a dispatch is no response. -/
theorem not_isResponse_of_send {m : Outbound} (hm : .send m ∈ b.onOutbound e)
    (he : ∀ n, e ≠ .dispatch n) : isResponse m = false := by
  have hnotification : ∀ {n}, m.payload = .notification n → isResponse m = false := by
    intro n hpayload
    simp [isResponse, hpayload, RpcMessage.response?]
  have hsent : (∃ n, e = .dispatch n) ∨
      (∃ session method params, e = .notify session method params) ∨
      ∃ method params, e = .broadcast method params := by simpa using onOutbound_cases hm
  rcases hsent with ⟨n, rfl⟩ | ⟨session, method, params, rfl⟩ | ⟨method, params, rfl⟩
  · exact absurd rfl (he n)
  · obtain ⟨m', hm', heq⟩ := List.mem_map.1 hm
    cases heq
    rw [posted_notify] at hm'
    split at hm'
    · rw [List.mem_singleton.1 hm']
      rfl
    · cases hm'
  · obtain ⟨m', hm', heq⟩ := List.mem_map.1 hm
    cases heq
    rw [posted_broadcast] at hm'
    split at hm'
    · exact hnotification ((Envelope.announces_notices _ _ _ _).payload_eq _ hm')
    · cases hm'

section BuiltIn

variable {registry : Registry σ} {resolvers : List (ArgumentResolver σ)}
  (hown : b.dispatcher = Dispatcher.builtIn registry resolvers)

include hown

/-- What the outbound channel does not accept is not sent in the first place. -/
theorem repliesTo_of_not_accepts (hacc : b.outbound.accepts = false) (n : Nat) :
    b.repliesTo n = [] := by
  unfold repliesTo
  split
  · rw [posted_dispatch hown, hacc]
    rfl
  · rfl

/-- For a message that it handles the dispatcher sends one response at most. -/
theorem repliesTo_cases (n : Nat) : b.repliesTo n = [] ∨
    ∃ msg response, b.repliesTo n = [msg] ∧ msg.payload = .response response := by
  unfold repliesTo
  split
  · next x _ =>
      rw [posted_dispatch hown, hown]
      rcases Dispatcher.replies_cases registry resolvers x.message b.state with
        ⟨_, hone⟩ | ⟨_, hnone⟩
      · split
        · exact .inr hone
        · exact .inl rfl
      · rw [hnone]
        exact .inl (ite_self _)
  · exact .inl rfl

/-- All that is sent for a message are responses. -/
theorem responses_repliesTo (n : Nat) : responses (b.repliesTo n) = b.repliesTo n := by
  rcases repliesTo_cases hown n with hnone | ⟨msg, response, hone, hpayload⟩
  · rw [hnone]
    rfl
  · rw [hone]
    simp [responses, isResponse, hpayload, RpcMessage.response?]

/-- The responses that an event puts into the outbound channel are the replies to what the
dispatcher handles. -/
theorem responses_accepted_onOutbound (h : b.Staged) (hd : b.after? e = some d) :
    responses (b.outbound.roll.accepted (b.onOutbound e)) = (b.replied e).flatMap Prod.snd := by
  by_cases hdispatch : ∃ n, e = .dispatch n
  · obtain ⟨n, rfl⟩ := hdispatch
    obtain ⟨⟨outcome, d'⟩, hdispatch, _⟩ := Option.map_eq_some_iff.1 hd
    obtain ⟨x, _, hx, _⟩ := dispatch?_eq_some hdispatch
    have hreplied : (b.replied (.dispatch n)).flatMap Prod.snd = b.repliesTo n := by
      simp [replied, hx]
    rw [hreplied, onOutbound, Channel.Roll.accepted_map_send]
    split
    · next hnil =>
        have hacc : b.outbound.accepts = false := by
          rw [← Bool.not_eq_true, h.outbound.accepts_iff]
          exact not_not.2 hnil
        rw [repliesTo_of_not_accepts hown hacc]
        rfl
    · exact responses_repliesTo hown n
  · have hnone : b.replied e = [] := by
      cases e with
      | dispatch n => exact absurd ⟨n, rfl⟩ hdispatch
      | _ => rfl
    rw [hnone]
    refine List.filter_eq_nil_iff.2 fun m hm => ?_
    have hsent := Channel.Roll.send_mem_of_accepted hm
    simpa using not_isResponse_of_send hsent fun n heq => hdispatch ⟨n, heq⟩

/-- Along a run, the responses that are put into the outbound channel are the replies to what the
dispatcher handles, in order. -/
theorem responses_accepted (h : b.Staged) (hd : b.run? es = some d) :
    responses (b.outbound.roll.accepted (b.observe onOutbound es)) =
      (b.observe replied es).flatMap Prod.snd := by
  induction es generalizing b with
  | nil => rfl
  | cons e es ih =>
      obtain ⟨c, hc, hrun⟩ := run?_cons.1 hd
      have hroll := h.outbound.roll_run? (h.outbound_after? hc)
      have hsame : c.dispatcher = b.dispatcher :=
        dispatcher_run? (run?_cons.2 ⟨c, hc, rfl⟩ : b.run? [e] = some c)
      have hrest := ih (hsame.trans hown) (h.after? hc) hrun
      rw [observe_cons hc, observe_cons hc, Channel.Roll.accepted_append, ← hroll,
        List.flatMap_append, ← hrest, ← responses_accepted_onOutbound hown h hc, responses_append]

end BuiltIn

/-! ## One delivery at a time on either channel -/

/-- Where every member brings one thing at most, a beginning of all that they bring which ends with
one thing ends at the member that brings it. -/
theorem exists_of_flatMap_prefix {α β : Type} {xs : List (α × List β)} {ys : List β} {y : β}
    (hone : ∀ x ∈ xs, x.2.length ≤ 1) (h : ys ++ [y] <+: xs.flatMap Prod.snd) :
    ∃ j a, xs[j]? = some (a, [y]) ∧ ys = (xs.take j).flatMap Prod.snd := by
  induction xs generalizing ys with
  | nil =>
      have hnil := List.prefix_nil.1 h
      simp at hnil
  | cons x xs ih =>
      obtain ⟨a, zs⟩ := x
      have hrest : ∀ x ∈ xs, x.2.length ≤ 1 := fun x hx => hone x (List.mem_cons_of_mem _ hx)
      match zs, hone _ List.mem_cons_self with
      | [], _ =>
          obtain ⟨j, a', hj, hys⟩ := ih hrest h
          exact ⟨j + 1, a', hj, by simpa using hys⟩
      | [z], _ =>
          match ys with
          | [] =>
              obtain ⟨rfl, _⟩ := List.cons_prefix_cons.1 h
              exact ⟨0, a, rfl, rfl⟩
          | y' :: ys =>
              obtain ⟨rfl, htail⟩ := List.cons_prefix_cons.1 h
              obtain ⟨j, a', hj, hys⟩ := ih hrest htail
              exact ⟨j + 1, a', hj, by simp [hys]⟩

section Built

variable {config : BusConfig} {mapping : Mapping σ} {groups : List (Group σ)}
  {resolvers : List (ArgumentResolver σ)} {app : σ} {b₀ : Bus σ} {before : List Event}
  (hbuild : build config mapping groups resolvers [] app = .ok b₀)

include hbuild

/-- The dispatcher handles what was accepted, in the same order. -/
theorem handles_isPrefix (hin : config.inbound.maxConcurrency ≤ 1) (hrun : b₀.run? es = some d) :
    (b₀.observe handles es).map Prod.fst <+: b₀.observe accepted es := by
  have hstaged := staged_build hbuild
  have hdispatcher := (orderly_build hbuild).dispatcher
  obtain ⟨hpermits, hunbegun, hpending⟩ : b₀.inbound.config.permits = 1 ∧
      b₀.inbound.unbegun 1 = [] ∧ b₀.inbound.pending 1 = [] := by
    obtain ⟨registry, _, rfl⟩ := build_eq_ok hbuild
    exact ⟨Channel.permits_of_le_one hin, rfl, rfl⟩
  have hlaw : b₀.inbound.unbegun 1 ++ Channel.handed 1 b₀.inbound (b₀.observe onInbound es) = _ :=
    hstaged.inbound.unbegun_append_handed_eq hpermits (hstaged.inbound_run? hrun)
  have hgiven : Channel.handed 1 b₀.inbound (b₀.observe onInbound es) <+: _ :=
    hstaged.inbound.handed_isPrefix (hstaged.inbound_run? hrun)
  rw [hunbegun, List.nil_append] at hlaw
  rw [hlaw, hpending, List.nil_append, hstaged.meantFor_inbound hdispatcher hrun,
    begun_inbound hbuild (show b₀.run? [] = some b₀ from rfl) hrun] at hgiven
  exact (List.prefix_append _ _).trans hgiven

/-- Before anything is received, the dispatcher sends nothing. -/
theorem replied_of_no_receive (hrun : b₀.run? before = some b)
    (hnone : ∀ session payload, .receive session payload ∉ before) :
    b₀.observe replied before = [] := by
  have hmap := map_fst_replied (b := b₀) before
  rw [handles_of_no_receive hbuild hrun hnone] at hmap
  exact List.map_eq_nil_iff.1 hmap

omit hbuild in
theorem accepted_of_no_receive (hnone : ∀ session payload, .receive session payload ∉ before) :
    b₀.observe accepted before = [] := by
  refine List.eq_nil_iff_forall_not_mem.2 fun m hm => ?_
  obtain ⟨pre, e, post, c, rfl, _, hm⟩ := mem_observe hm
  cases e with
  | receive session payload => exact hnone session payload (by simp)
  | _ => cases hm

/-- Until then no response is meant for anybody, either. -/
theorem responses_meantFor_before (hbefore : b₀.run? before = some b)
    (hnone : ∀ session payload, .receive session payload ∉ before) :
    responses (b₀.outbound.roll.meantFor k (b₀.observe onOutbound before)) = [] := by
  obtain ⟨registry, hown⟩ := dispatcher_build hbuild
  have hsub : (b₀.outbound.roll.meantFor k (b₀.observe onOutbound before)).Sublist _ :=
    Channel.Roll.meantFor_sublist _
  have haccepted := responses_accepted hown (staged_build hbuild) hbefore
  rw [replied_of_no_receive hbuild hbefore hnone, List.flatMap_nil] at haccepted
  have hresponses : (responses _).Sublist (responses _) := hsub.filter isResponse
  rw [haccepted] at hresponses
  exact List.sublist_nil.1 hresponses

/-- What is meant for a subscriber that was there from the start, are the replies to what the
dispatcher handles, as long as the subscriber stays. -/
theorem responses_meantFor (hbefore : b₀.run? before = some b) (hk : k ∈ b.outbound.members)
    (hnone : ∀ session payload, .receive session payload ∉ before)
    (hafter : b.run? es = some d) :
    responses (b₀.outbound.roll.meantFor k (b₀.observe onOutbound (before ++ es))) <+:
        (b.observe replied es).flatMap Prod.snd ∧
      (.unsubscribe k ∉ es →
        responses (b₀.outbound.roll.meantFor k (b₀.observe onOutbound (before ++ es))) =
          (b.observe replied es).flatMap Prod.snd) := by
  obtain ⟨registry, hown⟩ := dispatcher_build hbuild
  have hstaged := staged_build hbuild
  have hb := hstaged.run? hbefore
  have hroll := hstaged.outbound.roll_run? (hstaged.outbound_run? hbefore)
  have hrest := responses_accepted ((dispatcher_run? hbefore).trans hown) hb hafter
  have hall : responses (b₀.outbound.roll.meantFor k (b₀.observe onOutbound (before ++ es))) =
      responses (b.outbound.roll.meantFor k (b.observe onOutbound es)) := by
    rw [observe_append hbefore, Channel.Roll.meantFor_append, ← hroll, responses_append,
      responses_meantFor_before hbuild hbefore hnone, List.nil_append]
  have hlt : k < b.outbound.roll.nextId := hb.outbound.lt_nextId_of_mem_members hk
  rw [hall, ← hrest]
  constructor
  · exact (Channel.Roll.meantFor_isPrefix hk hlt).filter isResponse
  · intro hstay
    have hnot : .unsubscribe k ∉ b.observe onOutbound es := by
      intro hleave
      obtain ⟨_, e, _, _, rfl, _, hleave⟩ := mem_observe hleave
      exact hstay (by simp [unsubscribe_of_onOutbound hleave])
    rw [show b.outbound.roll.meantFor k _ = _ from Channel.Roll.meantFor_eq_accepted hk hnot]

/-- What a subscriber is done with and what is being delivered to it are what it was given. -/
theorem completed_append_running (hout : config.outbound.maxConcurrency ≤ 1)
    (hrun : b₀.run? es = some d) :
    b₀.observe (completed k) es ++ messagesFor k d.outbound.running =
      Channel.handed k b₀.outbound (b₀.observe onOutbound es) := by
  have hstaged := staged_build hbuild
  have houtbound := hstaged.outbound_run? hrun
  rw [outbound_build hbuild] at houtbound
  have hlaw : Channel.handed k (Channel.new config.outbound) _ = _ :=
    Channel.handed_eq_finished_append (Channel.permits_of_le_one hout) houtbound
  rw [← outbound_build hbuild, hstaged.finished_outbound hrun] at hlaw
  exact hlaw.symm

/-- Responses that were handed to a subscriber, or are being delivered to it, are the first ones of
those that were sent. -/
theorem responses_completed (hout : config.outbound.maxConcurrency ≤ 1)
    (hbefore : b₀.run? before = some b) (hk : k ∈ b.outbound.members)
    (hnone : ∀ session payload, .receive session payload ∉ before)
    (hafter : b.run? es = some d) :
    responses (b₀.observe (completed k) before) ++ responses (b.observe (completed k) es) ++
      responses (messagesFor k d.outbound.running) <+: (b.observe replied es).flatMap Prod.snd := by
  have hstaged := staged_build hbuild
  have hpending : b₀.outbound.pending k = [] := by
    rw [outbound_build hbuild, Channel.pending_new]
  have hrun : b₀.run? (before ++ es) = some d := run?_append.2 ⟨b, hbefore, hafter⟩
  have hhanded : Channel.handed k b₀.outbound (b₀.observe onOutbound (before ++ es)) <+: _ :=
    hstaged.outbound.handed_isPrefix (hstaged.outbound_run? hrun)
  rw [hpending, List.nil_append, ← completed_append_running hbuild hout hrun,
    observe_append hbefore] at hhanded
  have hresponses : responses _ <+: responses _ := hhanded.filter isResponse
  rw [responses_append, responses_append] at hresponses
  exact hresponses.trans (responses_meantFor hbuild hbefore hk hnone hafter).1

/-- None of them was there before anything was received. -/
theorem responses_completed_before (hout : config.outbound.maxConcurrency ≤ 1)
    (hbefore : b₀.run? before = some b) (hk : k ∈ b.outbound.members)
    (hnone : ∀ session payload, .receive session payload ∉ before) :
    responses (b₀.observe (completed k) before) = [] := by
  have hnil := List.prefix_nil.1
    (responses_completed hbuild hout hbefore hk hnone (show b.run? [] = some b from rfl))
  simp only [List.append_eq_nil_iff] at hnil
  exact hnil.1.1

/-- When the outbound channel has come to rest, a subscriber that has not left is done with all. -/
theorem responses_completed_of_quiet (hout : config.outbound.maxConcurrency ≤ 1)
    (hbefore : b₀.run? before = some b) (hk : k ∈ b.outbound.members)
    (hnone : ∀ session payload, .receive session payload ∉ before)
    (hafter : b.run? es = some d) (hcancel : d.outbound.cancelled = false)
    (hstay : .unsubscribe k ∉ es) (hquiet : d.outbound.Quiet) :
    responses (b.observe (completed k) es) = (b.observe replied es).flatMap Prod.snd := by
  have hstaged := staged_build hbuild
  have hrun : b₀.run? (before ++ es) = some d := run?_append.2 ⟨b, hbefore, hafter⟩
  have hroll : b₀.outbound.roll = {} := by
    rw [outbound_build hbuild]
    rfl
  have houtbound := hstaged.outbound_run? hrun
  rw [outbound_build hbuild] at houtbound
  have hlaw : Channel.finished k (Channel.new config.outbound) _ = _ :=
    Channel.finished_of_quiet (Channel.permits_of_le_one hout) houtbound hcancel hquiet
  rw [← outbound_build hbuild, hstaged.finished_outbound hrun, observe_append hbefore,
    ← hroll] at hlaw
  have hresponses := (responses_meantFor hbuild hbefore hk hnone hafter).2 hstay
  have hfirst := responses_completed_before hbuild hout hbefore hk hnone
  rw [← hlaw, responses_append, hfirst] at hresponses
  exact hresponses

/-! ## From the first request on -/

/-- Since the first message was received, the dispatcher handles what was accepted, in order. -/
theorem replied_isPrefix (hin : config.inbound.maxConcurrency ≤ 1)
    (hbefore : b₀.run? before = some b)
    (hnone : ∀ session payload, .receive session payload ∉ before) (hafter : b.run? es = some d) :
    (b.observe replied es).map Prod.fst <+: b.observe accepted es := by
  have hpre := handles_isPrefix hbuild hin (run?_append.2 ⟨b, hbefore, hafter⟩)
  rw [observe_append hbefore, observe_append hbefore, List.map_append, ← map_fst_replied,
    ← map_fst_replied, replied_of_no_receive hbuild hbefore hnone,
    accepted_of_no_receive hnone] at hpre
  exact hpre

/-- For each message that it handles it sends one response or nothing. -/
theorem answered_of_mem_replied (hbefore : b₀.run? before = some b)
    {x : Inbound × List Outbound} (hx : x ∈ b.observe replied es) :
    x.2 = [] ∨ ∃ msg response, x.2 = [msg] ∧ msg.payload = .response response := by
  obtain ⟨registry, hown⟩ := dispatcher_build hbuild
  obtain ⟨pre, e, post, c, rfl, hc, hx⟩ := mem_observe hx
  cases e with
  | dispatch n =>
      obtain ⟨y, _, rfl⟩ := List.mem_map.1 hx
      exact repliesTo_cases (((dispatcher_run? hc).trans (dispatcher_run? hbefore)).trans hown) n
  | _ => cases hx

/-- What the subscriber is done with, and then what it is at, are the first ones of the responses. -/
theorem completed_isPrefix (hout : config.outbound.maxConcurrency ≤ 1)
    (hbefore : b₀.run? before = some b) (hk : k ∈ b.outbound.members)
    (hnone : ∀ session payload, .receive session payload ∉ before)
    (hafter : b.run? es = some d) :
    responses (b.observe (completed k) es) ++ responses (messagesFor k d.outbound.running) <+:
      (b.observe replied es).flatMap Prod.snd := by
  have hpre := responses_completed hbuild hout hbefore hk hnone hafter
  rw [responses_completed_before hbuild hout hbefore hk hnone, List.nil_append] at hpre
  exact hpre

/-- While the subscriber is at a response, it is done with the responses to all messages that were
accepted before the one that is answered, and with no other response. -/
theorem completed_of_delivery? (hin : config.inbound.maxConcurrency ≤ 1)
    (hout : config.outbound.maxConcurrency ≤ 1) (hbefore : b₀.run? before = some b)
    (hk : k ∈ b.outbound.members)
    (hnone : ∀ session payload, .receive session payload ∉ before)
    (hafter : b.run? es = some d) {x : Delivery Outbound}
    (hx : d.outbound.delivery? n = some x) (hlane : x.lane = k)
    (hresponse : isResponse x.message = true) :
    ∃ j m, (b.observe accepted es)[j]? = some m ∧
      (b.observe replied es)[j]? = some (m, [x.message]) ∧
      responses (b.observe (completed k) es) =
        ((b.observe replied es).take j).flatMap Prod.snd := by
  have hrun : b₀.run? (before ++ es) = some d := run?_append.2 ⟨b, hbefore, hafter⟩
  have hd := (staged_build hbuild).run? hrun
  have hpermits : d.outbound.config.permits = 1 := by
    rw [Channel.config_run? ((staged_build hbuild).outbound_run? hrun), outbound_build hbuild]
    exact Channel.permits_of_le_one hout
  -- The delivery is all that runs, so the subscriber is done with everything before it.
  have hnext : responses (messagesFor k d.outbound.running) = [x.message] := by
    simp [hd.outbound.running_of_delivery? hpermits hx, messagesFor, hlane, responses, hresponse]
  have hpre := completed_isPrefix hbuild hout hbefore hk hnone hafter
  rw [hnext] at hpre
  have hone : ∀ y ∈ b.observe replied es, y.2.length ≤ 1 := by
    intro y hy
    rcases answered_of_mem_replied hbuild hbefore hy with hnil | ⟨_, _, hmsg, _⟩
    · simp [hnil]
    · simp [hmsg]
  obtain ⟨j, m, hj, hfirst⟩ := exists_of_flatMap_prefix hone hpre
  obtain ⟨later, hlater⟩ := replied_isPrefix hbuild hin hbefore hnone hafter
  have hm : ((b.observe replied es).map Prod.fst)[j]? = some m := by simp [hj]
  refine ⟨j, m, ?_, hj, hfirst⟩
  rw [← hlater, List.getElem?_append_left (List.getElem?_eq_some_iff.1 hm).1, hm]

end Built

/-- What a subscriber `k` of the outbound channel can rely on when the events `es` lead from the
state `b` to `d`. -/
structure InOrder (k : Nat) (b : Bus σ) (es : List Event) (d : Bus σ) : Prop where
  /-- The dispatcher handles what was accepted, in the same order. -/
  handled : (b.observe replied es).map Prod.fst <+: b.observe accepted es
  /-- For each message it sends one response or nothing. -/
  answered : ∀ x ∈ b.observe replied es,
    x.2 = [] ∨ ∃ msg response, x.2 = [msg] ∧ msg.payload = .response response
  /-- The responses that the subscriber is done with are, in order, the first ones of those. -/
  done : responses (b.observe (completed k) es) <+: (b.observe replied es).flatMap Prod.snd
  /-- When the subscriber begins the response to one of the accepted messages, it is done with the
  responses to all messages that were accepted before that one, and with no other response. -/
  inTurn : ∀ before n since c x, es = before ++ .listen n :: since → b.run? before = some c →
    c.outbound.delivery? n = some x → x.lane = k → isResponse x.message = true →
      ∃ j m, (b.observe accepted before)[j]? = some m ∧
        (b.observe replied before)[j]? = some (m, [x.message]) ∧
        responses (b.observe (completed k) before) =
          ((b.observe replied before).take j).flatMap Prod.snd
  /-- When the outbound channel has come to rest without being given up, a subscriber that has not
  left is done with all of them. -/
  atRest : d.outbound.cancelled = false → .unsubscribe k ∉ es → d.outbound.Quiet →
    responses (b.observe (completed k) es) = (b.observe replied es).flatMap Prod.snd

/-- Where one delivery runs at a time on either channel, a subscriber that was there before anything
was received handles the responses in the order in which their requests were accepted. -/
theorem inOrder_of_run? {config : BusConfig} {mapping : Mapping σ} {groups : List (Group σ)}
    {resolvers : List (ArgumentResolver σ)} {app : σ} {b₀ : Bus σ} {before : List Event}
    (hbuild : build config mapping groups resolvers [] app = .ok b₀)
    (hin : config.inbound.maxConcurrency ≤ 1) (hout : config.outbound.maxConcurrency ≤ 1)
    (hbefore : b₀.run? before = some b) (hk : k ∈ b.outbound.members)
    (hnone : ∀ session payload, .receive session payload ∉ before)
    (hafter : b.run? es = some d) : InOrder k b es d := by
  refine
    { handled := replied_isPrefix hbuild hin hbefore hnone hafter
      answered := ?_, done := ?_, inTurn := ?_
      atRest := responses_completed_of_quiet hbuild hout hbefore hk hnone hafter }
  · intro x hx
    exact answered_of_mem_replied hbuild hbefore hx
  · exact (List.prefix_append _ _).trans
      (completed_isPrefix hbuild hout hbefore hk hnone hafter)
  · intro pre n since c x _ hc hx hlane hresponse
    exact completed_of_delivery? hbuild hin hout hbefore hk hnone hc hx hlane hresponse

/-- Settings with which one delivery runs at a time on either channel. -/
def oneByOne : BusConfig :=
  { inbound := { name := "inbound", maxConcurrency := 1 }
    outbound := { name := "outbound", maxConcurrency := 0 } }

/-- Two requests and a notification; the subscriber panics at the notification and is at the second
response in the end. -/
def inTurns : List Event :=
  [.receive "one" (.object [("id", .integer 7), ("method", .string "nothing")]),
    .receive "two" (.object [("id", .integer 8), ("method", .string "nothing")]),
    .inbound (.take 1), .inbound (.lineUp 1), .inbound (.acquire 1), .inbound (.handOver 1),
    .dispatch 0, .notify "two" "news" .null, .inbound (.finish 0 .succeeded),
    .inbound (.take 1), .inbound (.lineUp 1), .inbound (.acquire 1), .inbound (.handOver 1),
    .dispatch 1,
    .outbound (.take 1), .outbound (.lineUp 1), .outbound (.acquire 1), .outbound (.handOver 1),
    .listen 0, .outbound (.finish 0 .failed),
    .outbound (.take 1), .outbound (.lineUp 1), .outbound (.acquire 1), .outbound (.handOver 1),
    .listen 1, .outbound (.finish 1 .panicked),
    .outbound (.take 1), .outbound (.lineUp 1), .outbound (.acquire 1), .outbound (.handOver 1),
    .listen 2]

/-- Both requests were accepted and answered, and one response is done with. -/
theorem inOrder_inTurns :
    ∃ b₀ b d : Bus Unit, build oneByOne .standard [] [] [] () = .ok b₀ ∧
      b₀.run? [.subscribe] = some b ∧ b.run? inTurns = some d ∧ InOrder 1 b inTurns d ∧
      (b.observe accepted inTurns).length = 2 ∧
      (responses (b.observe (completed 1) inTurns)).length = 1 := by
  have hend : (match build oneByOne .standard [] [] [] () with
      | .ok b₀ => (b₀.run? [.subscribe]).bind fun b =>
          (b.run? inTurns).map fun _ => (b.outbound.members, (b.observe accepted inTurns).length,
            (responses (b.observe (completed 1) inTurns)).length)
      | .error _ => none) = some ([1], 2, 1) := by decide +kernel
  cases hbuild : build oneByOne .standard [] [] [] () with
  | error e =>
      rw [hbuild] at hend
      cases hend
  | ok b₀ =>
      rw [hbuild] at hend
      obtain ⟨b, hbefore, hend⟩ := Option.bind_eq_some_iff.1 hend
      obtain ⟨d, hafter, hend⟩ := Option.map_eq_some_iff.1 hend
      obtain ⟨hmember, hcounts⟩ := Prod.mk.inj hend
      obtain ⟨haccepted, hresponses⟩ := Prod.mk.inj hcounts
      have horder := inOrder_of_run? (k := 1) hbuild (by decide) (by decide) hbefore
        (by simp [hmember]) (fun _ _ h => by cases List.mem_singleton.1 h) hafter
      exact ⟨b₀, b, d, rfl, hbefore, hafter, horder, haccepted, hresponses⟩

end Bus

end Switchboard
