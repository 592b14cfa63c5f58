/-
# Switchboard.Proofs.Dispatch.Subscribing -- what a sequence of messages binds

With the library's own return handlers a dispatch binds one pair at most: the session of the message
and the method of notifications of its handler, where the handler has one and the dispatch ends in a
response of that handler (`binding?`). Neither the reply nor its absence has a say in it:

* a handler of subscriptions that fails binds nothing, although the success of an exception handler
  is sent in the same form as its own would be;
* one that succeeds binds also where there is no id, and so no reply.

`Subscribed` says it of every sequence of messages, in terms of the set of pairs that are bound.
-/

import Mathlib.Data.Finset.Union
import Switchboard.Proofs.Dispatch.Course
import Switchboard.Proofs.Dispatch.Independence
import Switchboard.Proofs.Subscriptions.Pairs

namespace Switchboard

variable {σ : Type}

theorem Subscriptions.pairs_bindIfSome (s : Subscriptions) (b : Option (String × String)) :
    (s.bindIfSome b).pairs = s.pairs ∪ b.toList.toFinset := by
  cases b with
  | none => simp [bindIfSome]
  | some p => simp [bindIfSome, pairs_bind]

namespace Dispatcher

variable {registry : Registry σ} {resolvers : List (ArgumentResolver σ)} {x : Dispatcher σ}
  {m : Inbound} {ms : List Inbound} {s : State σ} {h : Method σ} {request : RequestMessage}
  {session method : String}

/-! ## One message -/

/-- The handler that a message is matched with. -/
def handler? (x : Dispatcher σ) (m : Inbound) : Option (Method σ) :=
  (Envelope.destination? m).bind x.registry.get?

/-- The session of a message and the method of its handler's notifications, if both are there. -/
def pair? (x : Dispatcher σ) (m : Inbound) : Option (String × String) :=
  m.headers.sessionId?.bind fun session =>
    (x.handler? m).bind fun h => h.info.kind.notifications?.map fun method => (session, method)

/-- The pair that a dispatch binds, if it binds any: that of the message, when the handler has
responded. -/
def binding? (x : Dispatcher σ) (s : State σ) (m : Inbound) : Option (String × String) :=
  match (x.dispatch m s).1 with
  | .ok .responded => x.pair? m
  | _ => none

theorem Reaches.handler?_eq (hreach : x.Reaches m s h request) : x.handler? m = some h := by
  obtain ⟨destination, r, hto, _, hget, _⟩ := hreach
  simp only [handler?, hto, Option.bind_some, hget]

theorem pair?_eq_some_iff : x.pair? m = some (session, method) ↔
    m.headers.sessionId? = some session ∧
      ∃ h, x.handler? m = some h ∧ h.info.kind.notifications? = some method := by
  unfold pair?
  constructor
  · intro hpair
    obtain ⟨t, ht, hpair⟩ := Option.bind_eq_some_iff.1 hpair
    obtain ⟨h, hh, hpair⟩ := Option.bind_eq_some_iff.1 hpair
    obtain ⟨n, hn, heq⟩ := Option.map_eq_some_iff.1 hpair
    cases heq
    exact ⟨ht, h, hh, hn⟩
  · rintro ⟨hsession, h, hh, hmethod⟩
    simp [hsession, hh, hmethod]

theorem binding?_eq_some_iff : x.binding? s m = some (session, method) ↔
    (x.dispatch m s).1 = .ok .responded ∧ x.pair? m = some (session, method) := by
  unfold binding?
  split
  · next hended => simp [hended]
  · next hnot => exact ⟨nofun, fun hboth => absurd hboth.1 hnot⟩

/-- Finding an answer binds nothing. -/
theorem subscriptions_answer (x : Dispatcher σ) (h : Method σ) (request : RequestMessage)
    (s : State σ) : (x.answer h request s).2.desk.subscriptions = s.desk.subscriptions := by
  unfold answer
  split
  · rfl
  · next e app _ =>
      split
      · rfl
      · next owner _ =>
          -- Choosing an exception handler leaves the desk alone.
          have hdesk : ∀ {choice s₁}, x.exceptionHandler? owner e (s.withApp app) = (choice, s₁) →
              s₁.desk.subscriptions = s.desk.subscriptions := by
            intro choice s₁ hchoice
            rw [show s₁ = (x.exceptionHandler? owner e (s.withApp app)).2 by rw [hchoice]]
            rfl
          split
          · next s₁ hchoice => exact hdesk hchoice
          · next eh s₁ hchoice =>
              have hsame := hdesk hchoice
              split
              · exact hsame
              · exact hsame

/-- Dealing with it binds what it calls for. -/
theorem subscriptions_settle (h : Method σ) (request : RequestMessage) (a : Answer σ)
    (s : State σ) : (settle h request a s).desk.subscriptions =
      s.desk.subscriptions.bindIfSome (a.binding? h.info request) :=
  a.subscriptions_bind h.info request s.desk

/-- The step: a dispatch binds its pair, if it binds any, and does nothing else to the
subscriptions. -/
theorem subscriptions_dispatch (m : Inbound) (s : State σ) :
    ((builtIn registry resolvers).dispatch m s).2.desk.subscriptions =
      s.desk.subscriptions.bindIfSome ((builtIn registry resolvers).binding? s m) := by
  by_cases hreach : ∃ h request, (builtIn registry resolvers).Reaches m s h request
  · obtain ⟨h, request, hreach⟩ := hreach
    have hbinding : (builtIn registry resolvers).binding? s m =
        ((builtIn registry resolvers).answer h request s.fresh).1.binding? h.info request := by
      unfold binding?
      rw [hreach.dispatch_eq, handle_eq]
      obtain ⟨destination, r, hto, hr, hget, rfl⟩ := hreach
      have hpair : (builtIn registry resolvers).pair? m = m.headers.sessionId?.bind fun session =>
          h.info.returnType.subscribeMethod.map fun method => (session, method) := by
        simp only [pair?, handler?, hto, Option.bind_some, hget]
        rfl
      cases ((builtIn registry resolvers).answer h _ s.fresh).1 with
      | value v =>
          dsimp only [Answer.outcome, Answer.binding?]
          rw [Envelope.sessionId?_requestFor, hpair]
      | recovered eh v => rfl
      | failure e => rfl
    rw [hreach.dispatch_eq, handle_eq, subscriptions_settle, subscriptions_answer, hbinding]
    rfl
  · -- No handler, no binding.
    have hnone : ∀ {outcome : Outcome}, outcome ≠ .responded →
        ((builtIn registry resolvers).dispatch m s).1 = .ok outcome →
          (builtIn registry resolvers).binding? s m = none := by
      intro outcome hne hended
      unfold binding?
      rw [hended]
      split
      · next heq => exact absurd (Except.ok.inj heq) hne
      · rfl
    rcases dispatch_of_unreached fun h request hr => hreach ⟨h, request, hr⟩ with
      ⟨outcome, hne, heq | ⟨reply, heq⟩⟩
    · rw [hnone hne (congrArg Prod.fst heq), heq]
      rfl
    · rw [hnone hne (congrArg Prod.fst heq), heq]
      rfl

/-! ## A sequence of messages -/

/-- The pairs that a sequence of messages binds, one after the other. -/
def bindings (x : Dispatcher σ) : State σ → List Inbound → List (String × String)
  | _, [] => []
  | s, m :: ms => (x.binding? s m).toList ++ bindings x (x.dispatch m s).2 ms

theorem after_cons (x : Dispatcher σ) (m : Inbound) (ms : List Inbound) (s : State σ) :
    x.after (m :: ms) s = x.after ms (x.dispatch m s).2 := rfl

/-- The run: the pairs that are bound afterwards are those that were bound before and those that the
messages bind. -/
theorem pairs_after (ms : List Inbound) (s : State σ) :
    ((builtIn registry resolvers).after ms s).desk.subscriptions.pairs =
      s.desk.subscriptions.pairs ∪ ((builtIn registry resolvers).bindings s ms).toFinset := by
  induction ms generalizing s with
  | nil => simp [after, bindings]
  | cons m ms ih =>
      rw [after_cons, ih, subscriptions_dispatch, Subscriptions.pairs_bindIfSome, bindings,
        List.toFinset_append, Finset.union_assoc]

/-- A pair that is bound is bound by one of the messages, in the state to which those before it have
led. -/
theorem mem_bindings {p : String × String} : p ∈ x.bindings s ms ↔
    ∃ before m since, ms = before ++ m :: since ∧ x.binding? (x.after before s) m = some p := by
  induction ms generalizing s with
  | nil => simp [bindings]
  | cons m ms ih =>
      rw [bindings, List.mem_append, ih, Option.mem_toList]
      constructor
      · rintro (hfirst | ⟨before, m', since, rfl, hlater⟩)
        · exact ⟨[], m, ms, rfl, hfirst⟩
        · exact ⟨m :: before, m', since, rfl, hlater⟩
      · rintro ⟨before, m', since, heq, hbinding⟩
        cases before with
        | nil =>
            cases heq
            exact .inl hbinding
        | cons m₀ before =>
            cases heq
            exact .inr ⟨before, m', since, rfl, hbinding⟩

/-! ## Failures and missing ids -/

/-- What fails gives no value. -/
theorem answer_ne_value {e : Failure} (hfails : x.Fails h request s e) (v : Json) :
    (x.answer h request s).1 ≠ .value v := by
  intro hanswer
  have hended : (x.answer h request s).1.outcome = .responded := by
    rw [hanswer]
    rfl
  obtain ⟨w, hyields⟩ := outcome_eq_responded_iff.1 hended
  have hok := Function.invoke_ok_iff.2 hyields
  unfold Fails at hfails
  rw [hfails] at hok
  cases hok

section Reached

variable (hreach : (builtIn registry resolvers).Reaches m s h request)

include hreach

theorem Reaches.replies_eq : (builtIn registry resolvers).replies m s =
    (((builtIn registry resolvers).answer h request s.fresh).1.reply h.info request
      (generatedId
        ((builtIn registry resolvers).answer h request s.fresh).2.desk.made)).toList := by
  obtain ⟨destination, r, hto, hr, hget, rfl⟩ := hreach
  exact replies_of_registered hto hr hget

theorem Reaches.outcome_eq : ((builtIn registry resolvers).dispatch m s).1 =
    .ok ((builtIn registry resolvers).answer h request s.fresh).1.outcome := by
  rw [hreach.dispatch_eq, handle_eq]

/-- A handler that fails binds nothing. -/
theorem subscriptions_of_fails {e : Failure}
    (hfails : (builtIn registry resolvers).Fails h request s.fresh e) :
    ((builtIn registry resolvers).dispatch m s).2.desk.subscriptions = s.desk.subscriptions := by
  rw [hreach.dispatch_eq, handle_eq, subscriptions_settle, subscriptions_answer]
  cases hanswer : ((builtIn registry resolvers).answer h request s.fresh).1 with
  | value v => exact absurd hanswer (answer_ne_value hfails v)
  | recovered eh v => rfl
  | failure e => rfl

/-- A handler of subscriptions that succeeds binds the session. -/
theorem isBound_of_yields {v : Json} (hmethod : h.info.kind.notifications? = some method)
    (hsession : m.headers.sessionId? = some session)
    (hyields : (builtIn registry resolvers).Yields h request s.fresh v) :
    ((builtIn registry resolvers).dispatch m s).2.desk.subscriptions.isBound session method =
      true := by
  have hended : ((builtIn registry resolvers).dispatch m s).1 = .ok .responded := by
    rw [hreach.outcome_eq, answer_of_yields hyields]
    rfl
  have hpair := pair?_eq_some_iff.2 ⟨hsession, h, hreach.handler?_eq, hmethod⟩
  rw [subscriptions_dispatch, binding?_eq_some_iff.2 ⟨hended, hpair⟩]
  simp [Subscriptions.bindIfSome, Subscriptions.isBound_bind]

end Reached

/-- What a sequence of messages does to the subscriptions, from a state `s` on. -/
structure Subscribed (x : Dispatcher σ) (s : State σ) (ms : List Inbound) : Prop where
  /-- What is bound afterwards was bound before or is bound by the messages. -/
  pairs_eq : (x.after ms s).desk.subscriptions.pairs =
    s.desk.subscriptions.pairs ∪ (x.bindings s ms).toFinset
  /-- A message binds its session, if it has one, to the method of the notifications of its handler,
  if it is a handler of subscriptions, when the dispatch ends in a response of the handler. Nothing
  else is bound. -/
  mem_iff : ∀ session method, (session, method) ∈ x.bindings s ms ↔
    ∃ before m since h, ms = before ++ m :: since ∧ m.headers.sessionId? = some session ∧
      x.handler? m = some h ∧ h.info.kind.notifications? = some method ∧
      (x.dispatch m (x.after before s)).1 = .ok .responded
  /-- In whatever state, a handler that fails binds nothing, also when an exception handler succeeds
  in its place and its value is sent. -/
  failing : ∀ m t h request e, x.Reaches m t h request → x.Fails h request t.fresh e →
    (x.dispatch m t).2.desk.subscriptions = t.desk.subscriptions ∧
    ∀ eh v, x.Recovers h request t.fresh e eh v →
      (x.dispatch m t).1 = .ok .exceptionHandled ∧
      Answers request.payload (.success v) (x.replies m t)
  /-- A handler of subscriptions that succeeds binds the session also where there is no id, so that
  nothing acknowledges the subscription. -/
  unacknowledged : ∀ m t h request session method v, x.Reaches m t h request →
    h.info.kind.notifications? = some method → m.headers.sessionId? = some session →
    x.Yields h request t.fresh v → request.payload.id = none →
      (x.dispatch m t).2.desk.subscriptions.isBound session method = true ∧ x.replies m t = []

/-- Every sequence of messages binds just what its messages call for and get. -/
theorem subscribed_after (registry : Registry σ) (resolvers : List (ArgumentResolver σ))
    (s : State σ) (ms : List Inbound) : Subscribed (builtIn registry resolvers) s ms := by
  refine { pairs_eq := pairs_after ms s, mem_iff := ?_, failing := ?_, unacknowledged := ?_ }
  · intro session method
    simp only [mem_bindings, binding?_eq_some_iff, pair?_eq_some_iff]
    constructor
    · rintro ⟨before, m, since, heq, hended, hsession, h, hh, hmethod⟩
      exact ⟨before, m, since, h, heq, hsession, hh, hmethod, hended⟩
    · rintro ⟨before, m, since, h, heq, hsession, hh, hmethod, hended⟩
      exact ⟨before, m, since, heq, hended, hsession, h, hh, hmethod⟩
  · intro m t h request e hreach hfails
    refine ⟨subscriptions_of_fails hreach hfails, fun eh v hrecovers => ?_⟩
    rw [hreach.outcome_eq, hreach.replies_eq, answer_of_recovers hrecovers]
    exact ⟨rfl, answers_resultReply eh.returnType _⟩
  · intro m t h request session method v hreach hmethod hsession hyields hid
    refine ⟨isBound_of_yields hreach hmethod hsession hyields, ?_⟩
    rw [hreach.replies_eq, answer_of_yields hyields]
    simp [Answer.reply, Envelope.resultReply, hid]

end Dispatcher

end Switchboard
