/-
# Switchboard.Proofs.Dispatch.Accounting -- how a dispatch ends, what it sends and what it calls

For a dispatcher without return handlers of the application, whatever its registry, its argument
resolvers and the functions behind them do, a dispatch never panics, and `Accounted` says of each
outcome exactly when it comes about, which reply is sent with it and which functions were called.
`dispatch_accounted` proves it for every message and every state.

The part that needs an argument is a message for a registered handler. `answer_of_yields`,
`answer_of_recovers` and `answer_of_failure` are its three ways; each excludes the others.
-/

import Switchboard.Proofs.Dispatch.Recording

namespace Switchboard

variable {σ : Type}

namespace Dispatcher

variable {registry : Registry σ} {resolvers : List (ArgumentResolver σ)} {x : Dispatcher σ}
  {m : Inbound} {s : State σ} {destination : String} {r : Request} {h : Method σ}
  {request : RequestMessage} {e : Failure} {eh : ExceptionHandler σ} {v : Json}

/-! ## The three ways of an answer -/

/-- A handler gives a value for a request. -/
def Yields (x : Dispatcher σ) (h : Method σ) (request : RequestMessage) (s : State σ)
    (v : Json) : Prop :=
  h.function.Yields h.info.signature.params x.argumentResolvers [] request s.desk.app v

/-- A handler fails for a request. -/
def Fails (x : Dispatcher σ) (h : Method σ) (request : RequestMessage) (s : State σ)
    (e : Failure) : Prop :=
  (h.function.invoke h.info.signature.params x.argumentResolvers [] request s.desk.app).1 = .error e

/-- A handler fails for a request and leaves the application in the state `app`, and its owner has
an exception handler for the failure. -/
def Chooses (x : Dispatcher σ) (h : Method σ) (request : RequestMessage) (s : State σ)
    (e : Failure) (app : σ) (eh : ExceptionHandler σ) : Prop :=
  h.function.invoke h.info.signature.params x.argumentResolvers [] request s.desk.app =
      (.error e, app) ∧
    ∃ owner, h.info.owner = some owner ∧
      (x.exceptionHandler? owner e (s.withApp app)).1 = some eh

/-- A handler fails for a request, and the exception handler that its owner has for the failure
gives a value. -/
def Recovers (x : Dispatcher σ) (h : Method σ) (request : RequestMessage) (s : State σ)
    (e : Failure) (eh : ExceptionHandler σ) (v : Json) : Prop :=
  ∃ app, x.Chooses h request s e app eh ∧
    eh.function.Yields eh.signature.params x.argumentResolvers (provided h.info e) request app v

/-- What does not fail gives a value. -/
theorem yields_or_fails (x : Dispatcher σ) (h : Method σ) (request : RequestMessage)
    (s : State σ) : (∃ v, x.Yields h request s v) ∨ ∃ e, x.Fails h request s e := by
  cases hresult : (h.function.invoke h.info.signature.params x.argumentResolvers [] request
      s.desk.app).1 with
  | ok v => exact .inl ⟨v, Function.invoke_ok_iff.1 hresult⟩
  | error e => exact .inr ⟨e, hresult⟩

theorem answer_of_yields (hy : x.Yields h request s v) :
    (x.answer h request s).1 = .value v := by
  have hok := Function.invoke_ok_iff.2 hy
  unfold answer
  split
  · next w app hinvoke =>
      rw [hinvoke] at hok
      cases hok
      rfl
  · next e app hinvoke =>
      rw [hinvoke] at hok
      cases hok

theorem answer_of_recovers (hr : x.Recovers h request s e eh v) :
    (x.answer h request s).1 = .recovered eh v := by
  obtain ⟨app, ⟨hinvoke, owner, howner, hchoice⟩, hy⟩ := hr
  have hok := Function.invoke_ok_iff.2 hy
  unfold answer
  rw [hinvoke]
  dsimp only
  rw [howner]
  dsimp only
  split
  · next s₁ hnone =>
      rw [hnone] at hchoice
      cases hchoice
  · next eh' s₁ hsome =>
      -- Choosing an exception handler leaves the state of the application alone.
      have happ : s₁.desk.app = app := by
        rw [show s₁ = (x.exceptionHandler? owner e (s.withApp app)).2 by rw [hsome]]
        rfl
      rw [hsome] at hchoice
      cases hchoice
      rw [happ]
      split
      · next w app₁ hagain =>
          rw [hagain] at hok
          cases hok
          rfl
      · next e₁ app₁ hagain =>
          rw [hagain] at hok
          cases hok

theorem answer_of_failure (hf : x.Fails h request s e)
    (hr : ∀ eh v, ¬x.Recovers h request s e eh v) : (x.answer h request s).1 = .failure e := by
  unfold answer
  split
  · next v app hinvoke =>
      unfold Fails at hf
      rw [hinvoke] at hf
      cases hf
  · next e' app hinvoke =>
      unfold Fails at hf
      rw [hinvoke] at hf
      cases hf
      split
      · rfl
      · next owner howner =>
          split
          · rfl
          · next eh s₁ hchoice =>
              have happ : s₁.desk.app = app := by
                rw [show s₁ = (x.exceptionHandler? owner e (s.withApp app)).2 by rw [hchoice]]
                rfl
              split
              · next v app₁ hagain =>
                  refine absurd ⟨app, ⟨hinvoke, owner, howner, by rw [hchoice]⟩, ?_⟩ (hr eh v)
                  rw [← happ]
                  exact Function.invoke_ok_iff.1 (by rw [hagain])
              · rfl

/-- There are no other ways. -/
theorem answer_cases (x : Dispatcher σ) (h : Method σ) (request : RequestMessage) (s : State σ) :
    (∃ v, x.Yields h request s v ∧ (x.answer h request s).1 = .value v) ∨
    (∃ e eh v, x.Recovers h request s e eh v ∧ (x.answer h request s).1 = .recovered eh v) ∨
    (∃ e, x.Fails h request s e ∧ (∀ eh v, ¬x.Recovers h request s e eh v) ∧
      (x.answer h request s).1 = .failure e) := by
  rcases yields_or_fails x h request s with ⟨v, hy⟩ | ⟨e, hf⟩
  · exact .inl ⟨v, hy, answer_of_yields hy⟩
  · by_cases hr : ∃ eh v, x.Recovers h request s e eh v
    · obtain ⟨eh, v, hr⟩ := hr
      exact .inr (.inl ⟨e, eh, v, hr, answer_of_recovers hr⟩)
    · have hnone : ∀ eh v, ¬x.Recovers h request s e eh v := fun eh v hr' => hr ⟨eh, v, hr'⟩
      exact .inr (.inr ⟨e, hf, hnone, answer_of_failure hf hnone⟩)

theorem outcome_eq_responded_iff :
    (x.answer h request s).1.outcome = .responded ↔ ∃ v, x.Yields h request s v := by
  constructor
  · intro ho
    rcases answer_cases x h request s with ⟨v, hy, _⟩ | ⟨_, _, _, _, ha⟩ | ⟨_, _, _, ha⟩
    · exact ⟨v, hy⟩
    · rw [ha] at ho; cases ho
    · rw [ha] at ho; cases ho
  · rintro ⟨v, hy⟩
    rw [answer_of_yields hy]
    rfl

theorem outcome_eq_exceptionHandled_iff :
    (x.answer h request s).1.outcome = .exceptionHandled ↔
      ∃ e eh v, x.Recovers h request s e eh v := by
  constructor
  · intro ho
    rcases answer_cases x h request s with ⟨_, _, ha⟩ | ⟨e, eh, v, hr, _⟩ | ⟨_, _, _, ha⟩
    · rw [ha] at ho; cases ho
    · exact ⟨e, eh, v, hr⟩
    · rw [ha] at ho; cases ho
  · rintro ⟨e, eh, v, hr⟩
    rw [answer_of_recovers hr]
    rfl

theorem outcome_eq_defaultError_iff :
    (x.answer h request s).1.outcome = .defaultError ↔
      ∃ e, x.Fails h request s e ∧ ∀ eh v, ¬x.Recovers h request s e eh v := by
  constructor
  · intro ho
    rcases answer_cases x h request s with ⟨_, _, ha⟩ | ⟨_, _, _, _, ha⟩ | ⟨e, hf, hr, _⟩
    · rw [ha] at ho; cases ho
    · rw [ha] at ho; cases ho
    · exact ⟨e, hf, hr⟩
  · rintro ⟨e, hf, hr⟩
    rw [answer_of_failure hf hr]
    rfl

/-- After a handler at most one exception handler is called, and none after a value. -/
theorem recoveryCalls_cases (x : Dispatcher σ) (h : Method σ) (request : RequestMessage)
    (s : State σ) :
    x.recoveryCalls h request s = [] ∨ ∃ e app eh, x.Chooses h request s e app eh ∧
      x.recoveryCalls h request s = [.recovery eh.signature] := by
  unfold recoveryCalls
  split
  · exact .inl rfl
  · next e app hinvoke =>
      split
      · exact .inl rfl
      · next owner howner =>
          split
          · exact .inl rfl
          · next eh s₁ hchoice =>
              split
              · exact .inr ⟨e, app, eh, ⟨hinvoke, owner, howner, by rw [hchoice]⟩, rfl⟩
              · exact .inl rfl

/-! ## The account -/

/-- Some messages are the answer to a request: one response with the given content if the request
has an id, else none. -/
def Answers (r : Request) (content : ResponsePayload) (ms : List Outbound) : Prop :=
  ms.map Message.payload = (r.id.map fun id => .response ⟨r.marked, id, content⟩).toList

/-- What holds of a request for a registered handler: how it ended, what was sent and what was
called. -/
structure Handled (x : Dispatcher σ) (destination : String) (h : Method σ)
    (request : RequestMessage) (s : State σ) (outcome : Outcome) (sent : List Outbound)
    (called : List Invocation) : Prop where
  /-- The handler's own function runs once, or not at all if its arguments cannot be had, and no
  other handler does; an exception handler may follow. -/
  called_eq : ∃ recovery, called =
      (if h.function.reached h.info.signature.params x.argumentResolvers [] request s.desk.app then
        [.handler destination] else []) ++ recovery ∧
    (recovery = [] ∨ ∃ e app eh, x.Chooses h request s e app eh ∧
      recovery = [.recovery eh.signature])
  /-- It is responded to just when the handler gives a value. -/
  responded_iff : outcome = .responded ↔ ∃ v, x.Yields h request s v
  /-- A failure is handled just when the exception handler chosen for it gives a value. -/
  exceptionHandled_iff : outcome = .exceptionHandled ↔ ∃ e eh v, x.Recovers h request s e eh v
  /-- Else the failure itself is the answer. -/
  defaultError_iff : outcome = .defaultError ↔
    ∃ e, x.Fails h request s e ∧ ∀ eh v, ¬x.Recovers h request s e eh v
  /-- The value is sent. -/
  sent_of_yields : ∀ v, x.Yields h request s v → Answers request.payload (.success v) sent
  /-- The value of the exception handler is sent. -/
  sent_of_recovers : ∀ e eh v, x.Recovers h request s e eh v →
    Answers request.payload (.success v) sent
  /-- The handler's failure is sent, also if an exception handler failed as well. -/
  sent_of_fails : ∀ e, x.Fails h request s e → (∀ eh v, ¬x.Recovers h request s e eh v) →
    Answers request.payload (.error e.toDetails) sent

/-- What holds of a dispatch: how it ended, what was sent and what was called. -/
structure Accounted (registry : Registry σ) (resolvers : List (ArgumentResolver σ)) (m : Inbound)
    (s : State σ) (outcome : Outcome) (sent : List Outbound) (called : List Invocation) : Prop where
  /-- The dispatch ends with the outcome; it does not panic. -/
  ended : ((builtIn registry resolvers).dispatch m s).1 = .ok outcome
  /-- It sends the messages, whatever stands in the outbox. -/
  sends : ∀ o, ((builtIn registry resolvers).dispatch m (s.withOutbox o)).2.desk.outbox =
    o.sendAll sent
  /-- Under watch it is the same dispatch, and it notes the calls. -/
  calls : ∀ log, (watched registry resolvers).dispatch m (s.noting log) =
    (.ok outcome, ((builtIn registry resolvers).dispatch m s).2.noting (log ++ called))
  /-- A message is ignored just when its payload is no object with a text `method`. -/
  ignored_iff : outcome = .ignored ↔ ¬∃ fields destination, m.payload = .object fields ∧
    Entries.find? "method" fields = some (.string destination)
  /-- Then nothing is sent and nothing called. -/
  ignored : outcome = .ignored → sent = [] ∧ called = []
  /-- Else a payload that is no request is answered by an error without an id, whoever is
  registered. -/
  invalid : ∀ destination e, Envelope.destination? m = some destination →
    Request.decode m.payload.toDoc = .error e →
      outcome = .defaultError ∧ called = [] ∧ ∃ marked details,
        sent.map Message.payload = [.response ⟨marked, .null, .error details⟩] ∧
        details.code.code = -32600
  /-- Else a request for which nobody is registered is not found. -/
  unregistered : ∀ destination r, Envelope.destination? m = some destination →
    Request.decode m.payload.toDoc = .ok r → registry.get? destination = none →
      outcome = .notFound ∧ called = [] ∧ ∃ details, Answers r (.error details) sent ∧
        details.code.code = -32601
  /-- Else it is handled. -/
  registered : ∀ destination r h, Envelope.destination? m = some destination →
    Request.decode m.payload.toDoc = .ok r → registry.get? destination = some h →
      Handled (builtIn registry resolvers) destination h
        (Envelope.requestFor m r (some h.info) (generatedId s.desk.made)) s.fresh outcome sent
        called

theorem answers_errorReply (details : ErrorDetails) (fresh : String) :
    Answers request.payload (.error details)
      (Envelope.errorReply request details fresh).toList := by
  unfold Answers Envelope.errorReply
  cases request.payload.id <;> rfl

theorem answers_resultReply (type : ReturnType) (fresh : String) :
    Answers request.payload (.success v) (Envelope.resultReply request v type fresh).toList := by
  unfold Answers Envelope.resultReply
  cases request.payload.id <;> rfl

/-- A request for a registered handler is handled as its answer says. -/
theorem handled_of_answer (x : Dispatcher σ) (destination fresh : String) (h : Method σ)
    (request : RequestMessage) (s : State σ) :
    Handled x destination h request s (x.answer h request s).1.outcome
      ((x.answer h request s).1.reply h.info request fresh).toList
      (x.handlerCalls h (.handler destination) request s ++ x.recoveryCalls h request s) := by
  refine
    { called_eq := ⟨x.recoveryCalls h request s, rfl, recoveryCalls_cases x h request s⟩
      responded_iff := outcome_eq_responded_iff
      exceptionHandled_iff := outcome_eq_exceptionHandled_iff
      defaultError_iff := outcome_eq_defaultError_iff
      sent_of_yields := ?_, sent_of_recovers := ?_, sent_of_fails := ?_ }
  · intro v hy
    rw [answer_of_yields hy]
    exact answers_resultReply h.info.returnType fresh
  · intro e eh v hr
    rw [answer_of_recovers hr]
    exact answers_resultReply eh.returnType fresh
  · intro e hf hr
    rw [answer_of_failure hf hr]
    exact answers_errorReply e.toDetails fresh

theorem replies_sendAll (o : Outbox) :
    ((builtIn registry resolvers).dispatch m (s.withOutbox o)).2.desk.outbox =
      o.sendAll ((builtIn registry resolvers).replies m s) := by
  rw [dispatch_withOutbox]
  rfl

/-- A dispatch under watch, by the plain one. -/
theorem watched_eq {outcome : Outcome}
    (h : ((builtIn registry resolvers).dispatch m s).1 = .ok outcome) (log : List Invocation) :
    (watched registry resolvers).dispatch m (s.noting log) =
      (.ok outcome, ((builtIn registry resolvers).dispatch m s).2.noting
        (log ++ calls registry resolvers m s)) := by
  rw [dispatch_noting, h]

section Ways

variable (registry resolvers s)

theorem accounted_of_ignored (hto : Envelope.destination? m = none) :
    Accounted registry resolvers m s .ignored ((builtIn registry resolvers).replies m s)
      (calls registry resolvers m s) := by
  have hended : ((builtIn registry resolvers).dispatch m s).1 = .ok .ignored := by
    rw [dispatch_of_ignored hto]
  refine
    { ended := hended, sends := replies_sendAll, calls := watched_eq hended
      ignored_iff := iff_of_true rfl ?_
      ignored := fun _ => ⟨replies_of_ignored hto, calls_of_ignored hto⟩
      invalid := by simp [hto], unregistered := by simp [hto], registered := by simp [hto] }
  rintro ⟨fields, destination, hfields⟩
  rw [Envelope.destination?_eq_some.2 ⟨fields, hfields⟩] at hto
  cases hto

variable (hto : Envelope.destination? m = some destination)

include hto

/-- Whatever has a destination is not ignored. -/
theorem not_ignored_iff {outcome : Outcome} (h : outcome ≠ .ignored) :
    outcome = .ignored ↔ ¬∃ fields destination, m.payload = .object fields ∧
      Entries.find? "method" fields = some (.string destination) := by
  obtain ⟨fields, hfields⟩ := Envelope.destination?_eq_some.1 hto
  exact iff_of_false h fun hnone => hnone ⟨fields, destination, hfields⟩

theorem accounted_of_invalid {e : Json.DecodeError}
    (he : Request.decode m.payload.toDoc = .error e) :
    Accounted registry resolvers m s .defaultError ((builtIn registry resolvers).replies m s)
      (calls registry resolvers m s) := by
  have hended : ((builtIn registry resolvers).dispatch m s).1 = .ok .defaultError := by
    rw [dispatch_of_invalid hto he]
  refine
    { ended := hended, sends := replies_sendAll, calls := watched_eq hended
      ignored_iff := not_ignored_iff hto nofun, ignored := nofun
      invalid := ?_, unregistered := by simp [he], registered := by simp [he] }
  intro _ _ _ _
  refine ⟨rfl, calls_of_invalid hto he, m.payload.textAt? "jsonrpc" = some "2.0",
    .invalidRequest (BusError.invalidRequest e).message none, ?_, rfl⟩
  rw [replies_of_invalid hto he]
  rfl

theorem accounted_of_unregistered (hr : Request.decode m.payload.toDoc = .ok r)
    (hnone : registry.get? destination = none) :
    Accounted registry resolvers m s .notFound ((builtIn registry resolvers).replies m s)
      (calls registry resolvers m s) := by
  have hended : ((builtIn registry resolvers).dispatch m s).1 = .ok .notFound := by
    rw [dispatch_of_unregistered hto hr hnone]
  refine
    { ended := hended, sends := replies_sendAll, calls := watched_eq hended
      ignored_iff := not_ignored_iff hto nofun, ignored := nofun
      invalid := by simp [hr], unregistered := ?_, registered := ?_ }
  · intro _ r' _ hr' _
    rw [hr] at hr'
    cases hr'
    refine ⟨rfl, calls_of_unregistered hto hr hnone,
      .methodNotFound ("Unknown method '" ++ destination ++ "'") none, ?_, rfl⟩
    rw [replies_of_unregistered hto hr hnone]
    exact answers_errorReply _ _
  · intro destination' _ h hto' _ hsome
    rw [hto] at hto'
    cases hto'
    rw [hnone] at hsome
    cases hsome

theorem accounted_of_registered (hr : Request.decode m.payload.toDoc = .ok r)
    (hsome : registry.get? destination = some h) :
    Accounted registry resolvers m s
      ((builtIn registry resolvers).answer h
        (Envelope.requestFor m r (some h.info) (generatedId s.desk.made)) s.fresh).1.outcome
      ((builtIn registry resolvers).replies m s) (calls registry resolvers m s) := by
  have hended := congrArg Prod.fst
    (dispatch_of_registered (x := builtIn registry resolvers) (s := s) hto hr hsome)
  rw [handle_eq] at hended
  have hne : ∀ a : Answer σ, a.outcome ≠ .ignored := by
    intro a
    cases a <;> exact nofun
  refine
    { ended := hended, sends := replies_sendAll, calls := watched_eq hended
      ignored_iff := not_ignored_iff hto (hne _), ignored := fun heq => absurd heq (hne _)
      invalid := by simp [hr], unregistered := by simp_all, registered := ?_ }
  intro destination' r' h' hto' hr' hsome'
  rw [hto] at hto'
  cases hto'
  rw [hr] at hr'
  cases hr'
  rw [hsome] at hsome'
  cases hsome'
  rw [calls_of_registered hto hr hsome, replies_of_registered hto hr hsome]
  exact handled_of_answer _ destination _ h _ s.fresh

end Ways

/-- Every dispatch can be accounted for. -/
theorem dispatch_accounted (registry : Registry σ) (resolvers : List (ArgumentResolver σ))
    (m : Inbound) (s : State σ) :
    ∃ outcome, Accounted registry resolvers m s outcome
      ((builtIn registry resolvers).replies m s) (calls registry resolvers m s) := by
  cases hto : Envelope.destination? m with
  | none => exact ⟨_, accounted_of_ignored registry resolvers s hto⟩
  | some destination =>
      cases hr : Request.decode m.payload.toDoc with
      | error e => exact ⟨_, accounted_of_invalid registry resolvers s hto hr⟩
      | ok r =>
          cases hget : registry.get? destination with
          | none => exact ⟨_, accounted_of_unregistered registry resolvers s hto hr hget⟩
          | some h => exact ⟨_, accounted_of_registered registry resolvers s hto hr hget⟩

end Dispatcher

end Switchboard
