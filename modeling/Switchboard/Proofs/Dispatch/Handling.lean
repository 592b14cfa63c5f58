/-
# Switchboard.Proofs.Dispatch.Handling -- an answer is found first and sent afterwards

For a dispatcher without return handlers of the application, handling a request falls into two
parts. `Dispatcher.answer` calls the handler, and after a failure perhaps an exception handler; it
sends nothing. `Dispatcher.settle` sends the one reply that the answer calls for, if the request
has an id. `handle_eq` says that this is all that happens, and the lemmas `dispatch_of_` say it of
every way that a message can go.

What a dispatch sends and how it ends does not depend on what stands in the outbox already, or on
which messages it accepts (`dispatch_withOutbox`).
-/

import Switchboard.Dispatch
import Switchboard.Proofs.Message.Replies

namespace Switchboard

/-! ## Sending several messages -/

/-- The messages that are accepted of some that are sent one after the other. -/
def Reception.accepted (r : Reception) (offered : List Outbound) : List Outbound → List Outbound
  | [] => []
  | m :: ms => (if r.accepts offered m then [m] else []) ++ r.accepted (offered ++ [m]) ms

namespace Outbox

/-- The messages that are accepted of some that are sent now. -/
def accepted (o : Outbox) (ms : List Outbound) : List Outbound := o.accepting.accepted o.offered ms

/-- The outbox after some messages were sent. -/
def sendAll (o : Outbox) (ms : List Outbound) : Outbox :=
  { o with offered := o.offered ++ ms, sent := o.sent ++ o.accepted ms }

variable (o : Outbox)

theorem accepted_append (ms ns : List Outbound) :
    o.accepted (ms ++ ns) = o.accepted ms ++ (o.sendAll ms).accepted ns := by
  obtain ⟨r, offered, sent⟩ := o
  show r.accepted offered (ms ++ ns) = r.accepted offered ms ++ r.accepted (offered ++ ms) ns
  induction ms generalizing offered with
  | nil => simp [Reception.accepted]
  | cons m ms ih => simp [Reception.accepted, ih]

theorem accepted_sublist (ms : List Outbound) : (o.accepted ms).Sublist ms := by
  obtain ⟨r, offered, sent⟩ := o
  show (r.accepted offered ms).Sublist ms
  induction ms generalizing offered with
  | nil => exact List.Sublist.refl _
  | cons m ms ih =>
      unfold Reception.accepted
      split
      · exact (ih _).cons_cons m
      · exact (ih _).cons m

/-- Where all messages get one answer, all of them are accepted, or nothing. -/
theorem accepted_coe (answer : Bool) (ms : List Outbound) :
    accepted { accepting := answer } ms = if answer then ms else [] := by
  have hall : ∀ offered, (answer : Reception).accepted offered ms = if answer then ms else [] := by
    induction ms with
    | nil => simp [Reception.accepted]
    | cons m ms ih =>
        intro offered
        rw [Reception.accepted, ih]
        cases answer <;> rfl
  exact hall []

@[simp] theorem sendAll_nil : o.sendAll [] = o := by
  simp [sendAll, accepted, Reception.accepted]

theorem sendAll_append (ms ns : List Outbound) :
    (o.sendAll ms).sendAll ns = o.sendAll (ms ++ ns) := by
  rw [sendAll, sendAll, sendAll, accepted_append]
  simp [sendAll]

@[simp] theorem send_snd (m : Outbound) : (o.send m).2 = o.sendAll [m] := by
  cases h : o.accepting.accepts o.offered m <;>
    simp [send, sendAll, accepted, Reception.accepted, h]

theorem sent_sendAll (answer : Bool) (ms : List Outbound) :
    (sendAll { accepting := answer } ms).sent = if answer then ms else [] :=
  accepted_coe answer ms

end Outbox

namespace Desk

variable {σ : Type}

/-- The desk after a message was made and, perhaps, sent. -/
def post (d : Desk σ) (m : Option Outbound) : Desk σ :=
  { d with outbox := d.outbox.sendAll m.toList, made := d.made + 1 }

theorem sendIfSome_eq (d : Desk σ) (m : Option Outbound) :
    d.sendIfSome m = { d with outbox := d.outbox.sendAll m.toList } := by
  cases m with
  | none => simp [sendIfSome]
  | some m => simp [sendIfSome, send]

end Desk

/-! ## The replies -/

namespace Envelope

/-- The reply with an error. -/
def errorReply (request : RequestMessage) (details : ErrorDetails) (fresh : String) :
    Option Outbound :=
  request.payload.id.map fun id =>
    ⟨.response { Response.error id details with marked := request.payload.marked },
      stamped request.headers.sessionId? (some request.payload.method) none (some id) fresh⟩

/-- The reply with a value of a type. -/
def resultReply (request : RequestMessage) (value : Json) (type : ReturnType) (fresh : String) :
    Option Outbound :=
  request.payload.id.map fun id =>
    ⟨.response { Response.success id value with marked := request.payload.marked },
      stamped request.headers.sessionId?
        (some (type.responseMethod.getD request.payload.method)) type.subscribeMethod (some id)
        fresh⟩

/-- The reply to a payload that is no request. -/
def invalidReply (m : Inbound) (details : ErrorDetails) (fresh : String) : Outbound :=
  ⟨.response { Response.error .null details with
      marked := m.payload.textAt? "jsonrpc" = some "2.0" },
    stamped m.headers.sessionId? none none none fresh⟩

end Envelope

namespace ReturnHandler

variable {σ : Type}

/-- The library's own return handlers deal with every value alike: the session is bound if the
type calls for it, and the value is sent. -/
theorem handleBy_builtIn (value : Json) (type : ReturnType) (request : RequestMessage)
    (d : Desk σ) :
    handleBy [subscribe, response] value type request d =
      (.value (), (bindSession type request d).post
        (Envelope.resultReply request value type (generatedId d.made))) := by
  -- Both return handlers come down to `respond`, after binding or without it.
  have hrespond : ∀ d : Desk σ, respond value type type.subscribeMethod request d =
      (.value (), d.post (Envelope.resultReply request value type (generatedId d.made))) := by
    intro d
    unfold respond
    rw [show d.fresh = (generatedId d.made, { d with made := d.made + 1 }) from rfl]
    simp only [Envelope.response_eq, Desk.sendIfSome_eq]
    rfl
  have hmade : (bindSession type request d).made = d.made := by
    unfold bindSession
    split <;> rfl
  cases htype : type.subscribeMethod with
  | some method =>
      have hfind : handleBy [subscribe, response] value type request d =
          respond value type type.subscribeMethod request (bindSession type request d) := by
        simp [handleBy, subscribe, htype]
      rw [hfind, hrespond, hmade]
  | none =>
      have hfind : handleBy [subscribe, response] value type request d =
          respond value type type.subscribeMethod request d := by
        simp [handleBy, subscribe, response, htype]
      have hbind : bindSession type request d = d := by
        simp [bindSession, htype]
      rw [hfind, hrespond, hbind]

/-- Binding looks at the type's notifications alone. -/
theorem bindSession_of_none {type : ReturnType} (h : type.subscribeMethod = none)
    (request : RequestMessage) (d : Desk σ) : bindSession type request d = d := by
  simp [bindSession, h]

end ReturnHandler

/-! ## Functions that give a value -/

namespace Function

variable {σ : Type}

/-- A call gives a value: all its parameters are bound, all arguments can be read, the function
ends well and what it returns has a JSON form. -/
def Yields (f : Function σ) (params : List Param) (rs : List (ArgumentResolver σ))
    (provided : List Argument) (m : RequestMessage) (s : σ) (v : Json) : Prop :=
  ∃ (arguments : List Argument) (args : f.Args) (s₁ s₂ : σ),
    ArgumentResolver.bindAll rs provided m params s = (.value arguments, s₁) ∧
      f.takes.read (params.zip arguments) = .value args ∧ f.run args s₁ = (.value (.ok v), s₂)

/-- A call succeeds just when it gives a value. -/
theorem invoke_ok_iff {f : Function σ} {params : List Param} {rs : List (ArgumentResolver σ)}
    {provided : List Argument} {m : RequestMessage} {s : σ} {v : Json} :
    (f.invoke params rs provided m s).1 = .ok v ↔ f.Yields params rs provided m s v := by
  constructor
  · intro h
    unfold invoke at h
    split at h
    · next arguments s₁ hbind =>
        have hcall : ((f.call params arguments s₁).1).guarded = .ok v := h
        unfold call at hcall
        split at hcall
        · next args hread =>
            have hrun : ((f.run args s₁).1.bind (encode f.returns)).guarded = .ok v := hcall
            -- Of what a function may do, only a value that can be encoded passes the guard.
            refine ⟨arguments, args, s₁, (f.run args s₁).2, hbind, hread, Prod.ext ?_ rfl⟩
            cases hresult : (f.run args s₁).1 with
            | value r =>
                rw [hresult] at hrun
                cases r with
                | ok w => cases hrun; rfl
                | error reason => cases hrun
            | failed e => rw [hresult] at hrun; cases hrun
            | panicked p => rw [hresult] at hrun; cases hrun
        · cases hcall
        · cases hcall
    · cases h
    · cases h
  · rintro ⟨arguments, args, s₁, s₂, hbind, hread, hrun⟩
    simp only [invoke, hbind, call, hread, hrun]
    rfl

end Function

/-! ## Finding an answer -/

/-- What the handler of a request comes to. -/
inductive Answer (σ : Type) where
  /-- Its value. -/
  | value (v : Json)
  /-- The value of an exception handler, after it failed. -/
  | recovered (handler : ExceptionHandler σ) (v : Json)
  /-- Its failure, which no exception handler dealt with. -/
  | failure (e : Failure)

namespace Answer

variable {σ : Type}

/-- The outcome that goes with an answer. -/
def outcome : Answer σ → Outcome
  | value _ => .responded
  | recovered .. => .exceptionHandled
  | failure _ => .defaultError

/-- The reply that an answer of a handler calls for. -/
def reply (h : MethodInfo) (request : RequestMessage) (fresh : String) :
    Answer σ → Option Outbound
  | value v => Envelope.resultReply request v h.returnType fresh
  | recovered eh v => Envelope.resultReply request v eh.returnType fresh
  | failure e => Envelope.errorReply request e.toDetails fresh

/-- The binding that an answer of a handler calls for. -/
def bind (h : MethodInfo) (request : RequestMessage) (d : Desk σ) : Answer σ → Desk σ
  | value _ => ReturnHandler.bindSession h.returnType request d
  | _ => d

end Answer

namespace Dispatcher

variable {σ : Type}

/-- The state of the application has changed. -/
def State.withApp (s : State σ) (app : σ) : State σ := { s with desk := { s.desk with app } }

/-- The same state before another outbox. -/
def State.withOutbox (s : State σ) (o : Outbox) : State σ :=
  { s with desk := { s.desk with outbox := o } }

/-- Finds the answer to a request. -/
def answer (x : Dispatcher σ) (h : Method σ) (request : RequestMessage) (s : State σ) :
    Answer σ × State σ :=
  match h.function.invoke h.info.signature.params x.argumentResolvers [] request s.desk.app with
  | (.ok v, app) => (.value v, s.withApp app)
  | (.error e, app) =>
    match h.info.owner with
    | none => (.failure e, s.withApp app)
    | some owner =>
      match x.exceptionHandler? owner e (s.withApp app) with
      | (none, s) => (.failure e, s)
      | (some eh, s) =>
        match eh.function.invoke eh.signature.params x.argumentResolvers (provided h.info e) request
          s.desk.app with
        | (.ok v, app) => (.recovered eh v, s.withApp app)
        | (.error _, app) => (.failure e, s.withApp app)

/-- Deals with an answer: binds the session and sends the reply. -/
def settle (h : Method σ) (request : RequestMessage) (a : Answer σ) (s : State σ) : State σ :=
  let reply := a.reply h.info request (generatedId s.desk.made)
  { s with desk := (a.bind h.info request s.desk).post reply }

/-- A dispatcher without return handlers of the application. -/
def builtIn (registry : Registry σ) (resolvers : List (ArgumentResolver σ)) : Dispatcher σ :=
  .new registry resolvers []

variable {registry : Registry σ} {resolvers : List (ArgumentResolver σ)}

/-- A value is dealt with by the library's own return handlers. -/
theorem run_of_ok {f : Function σ} {params : List Param} {provided : List Argument}
    {request : RequestMessage} {d : Desk σ} {v : Json} {app : σ} (type : ReturnType)
    (h : f.invoke params (builtIn registry resolvers).argumentResolvers provided request d.app =
      (.ok v, app)) :
    (builtIn registry resolvers).run f params type provided request d =
      (.value (), (ReturnHandler.bindSession type request { d with app }).post
        (Envelope.resultReply request v type (generatedId d.made))) := by
  have hown : (builtIn registry resolvers).returnHandlers = [.subscribe, .response] := rfl
  unfold run
  rw [h]
  show ((ReturnHandler.handleBy _ v type request { d with app }).1.mapError _,
    (ReturnHandler.handleBy _ v type request { d with app }).2) = _
  rw [hown, ReturnHandler.handleBy_builtIn]
  rfl

/-- A failure is given back. -/
theorem run_of_error {x : Dispatcher σ} {f : Function σ} {params : List Param}
    {provided : List Argument} {request : RequestMessage} {d : Desk σ} {e : Failure} {app : σ}
    (type : ReturnType)
    (h : f.invoke params x.argumentResolvers provided request d.app = (.error e, app)) :
    x.run f params type provided request d = (.failed e, { d with app }) := by
  unfold run
  rw [h]

theorem sendError_eq (request : RequestMessage) (details : ErrorDetails) (d : Desk σ) :
    sendError request details d =
      d.post (Envelope.errorReply request details (generatedId d.made)) := by
  unfold sendError
  rw [show d.fresh = (generatedId d.made, { d with made := d.made + 1 }) from rfl]
  simp only [Envelope.errorResponse_eq, Desk.sendIfSome_eq]
  rfl

theorem sendInvalid_eq (m : Inbound) (details : ErrorDetails) (d : Desk σ) :
    sendInvalid m details d =
      d.post (some (Envelope.invalidReply m details (generatedId d.made))) := by
  unfold sendInvalid
  rw [show d.fresh = (generatedId d.made, { d with made := d.made + 1 }) from rfl]
  simp only [Envelope.invalidRequest_eq, Desk.sendIfSome_eq]
  rfl

/-- Handling a request is finding an answer and dealing with it. -/
theorem handle_eq (h : Method σ) (request : RequestMessage) (s : State σ) :
    (builtIn registry resolvers).handle h request s =
      (.ok ((builtIn registry resolvers).answer h request s).1.outcome,
        settle h request ((builtIn registry resolvers).answer h request s).1
          ((builtIn registry resolvers).answer h request s).2) := by
  unfold handle answer
  cases hinvoke : h.function.invoke h.info.signature.params
      (builtIn registry resolvers).argumentResolvers [] request s.desk.app with
  | mk result app =>
      cases result with
      | ok v =>
          rw [State.onDesk, run_of_ok h.info.returnType hinvoke]
          rfl
      | error e =>
          rw [State.onDesk, run_of_error h.info.returnType hinvoke]
          -- What failed is left to an exception handler, whose own failure nobody handles.
          show (builtIn registry resolvers).recover h.info request e (s.withApp app) = _
          unfold recover
          cases howner : h.info.owner with
          | none =>
              simp only [defaultError, sendError_eq]
              rfl
          | some owner =>
              dsimp only
              cases hchoice : (builtIn registry resolvers).exceptionHandler? owner e
                  (s.withApp app) with
              | mk choice s₁ =>
                  cases choice with
                  | none =>
                      simp only [defaultError, sendError_eq]
                      rfl
                  | some eh =>
                      dsimp only
                      cases hagain : eh.function.invoke eh.signature.params
                          (builtIn registry resolvers).argumentResolvers (provided h.info e)
                          request s₁.desk.app with
                      | mk result app₁ =>
                          cases result with
                          | ok v =>
                              rw [State.onDesk, run_of_ok eh.returnType hagain,
                                ReturnHandler.bindSession_of_none rfl]
                              rfl
                          | error e₁ =>
                              rw [State.onDesk, run_of_error eh.returnType hagain]
                              simp only [defaultError, sendError_eq]
                              rfl

/-! ## The ways that a message can go -/

/-- The state after a message was made. -/
def State.fresh (s : State σ) : State σ := { s with desk := s.desk.fresh.2 }

/-- The state after a message was made and, perhaps, sent. -/
def State.post (s : State σ) (m : Option Outbound) : State σ := { s with desk := s.desk.post m }

variable {x : Dispatcher σ} {m : Inbound} {s : State σ} {destination : String} {r : Request}

theorem dispatch_of_ignored (h : Envelope.destination? m = none) :
    x.dispatch m s = (.ok .ignored, s) := by
  unfold dispatch
  rw [h]

theorem dispatch_of_invalid {e : Json.DecodeError}
    (hto : Envelope.destination? m = some destination)
    (he : Request.decode m.payload.toDoc = .error e) :
    x.dispatch m s = (.ok .defaultError, s.fresh.post (some (Envelope.invalidReply m
      (.invalidRequest (BusError.invalidRequest e).message none)
      (generatedId s.fresh.desk.made)))) := by
  unfold dispatch
  rw [hto]
  show x.dispatchTo destination m s = _
  simp only [dispatchTo, Envelope.decodeRequest_of_error he, sendInvalid_eq]
  rfl

theorem dispatch_of_unregistered (hto : Envelope.destination? m = some destination)
    (hr : Request.decode m.payload.toDoc = .ok r) (hnone : x.registry.get? destination = none) :
    x.dispatch m s = (.ok .notFound, s.fresh.post (Envelope.errorReply
      (Envelope.requestFor m r none (generatedId s.desk.made))
      (.methodNotFound ("Unknown method '" ++ destination ++ "'") none)
      (generatedId s.fresh.desk.made))) := by
  unfold dispatch
  rw [hto]
  show x.dispatchTo destination m s = _
  simp only [dispatchTo, hnone, Option.map_none, Envelope.decodeRequest_of_ok hr, sendError_eq]
  rfl

/-- A message for a registered handler is handled by it. -/
theorem dispatch_of_registered {h : Method σ} (hto : Envelope.destination? m = some destination)
    (hr : Request.decode m.payload.toDoc = .ok r) (hsome : x.registry.get? destination = some h) :
    x.dispatch m s =
      x.handle h (Envelope.requestFor m r (some h.info) (generatedId s.desk.made)) s.fresh := by
  unfold dispatch
  rw [hto]
  show x.dispatchTo destination m s = _
  simp only [dispatchTo, hsome, Option.map_some, Envelope.decodeRequest_of_ok hr]
  rfl

/-! ## What is sent -/

/-- The messages that the dispatch of a message sends, in order. -/
def replies (x : Dispatcher σ) (m : Inbound) (s : State σ) : List Outbound :=
  (x.dispatch m (s.withOutbox {})).2.desk.outbox.sent

theorem exceptionHandler?_withOutbox (owner : String) (e : Failure) (o : Outbox) :
    x.exceptionHandler? owner e (s.withOutbox o) =
      ((x.exceptionHandler? owner e s).1, (x.exceptionHandler? owner e s).2.withOutbox o) := rfl

/-- Finding an answer does not look at the outbox. -/
theorem answer_withOutbox (h : Method σ) (request : RequestMessage) (o : Outbox) :
    x.answer h request (s.withOutbox o) =
      ((x.answer h request s).1, (x.answer h request s).2.withOutbox o) := by
  unfold answer
  rw [show (s.withOutbox o).desk.app = s.desk.app from rfl]
  cases h.function.invoke h.info.signature.params x.argumentResolvers [] request s.desk.app with
  | mk result app =>
      cases result with
      | ok v => rfl
      | error e =>
          cases h.info.owner with
          | none => rfl
          | some owner =>
              dsimp only
              rw [show (s.withOutbox o).withApp app = (s.withApp app).withOutbox o from rfl,
                exceptionHandler?_withOutbox]
              cases x.exceptionHandler? owner e (s.withApp app) with
              | mk choice s₁ =>
                  cases choice with
                  | none => rfl
                  | some eh =>
                      dsimp only
                      rw [show (s₁.withOutbox o).desk.app = s₁.desk.app from rfl]
                      cases eh.function.invoke eh.signature.params x.argumentResolvers
                          (provided h.info e) request s₁.desk.app with
                      | mk result app₁ => cases result <;> rfl

/-- Dealing with an answer sends one reply, or none. -/
theorem settle_withOutbox (h : Method σ) (request : RequestMessage) (a : Answer σ) (o : Outbox) :
    settle h request a (s.withOutbox o) = (settle h request a s).withOutbox
      (o.sendAll (a.reply h.info request (generatedId s.desk.made)).toList) := by
  cases a with
  | value v =>
      unfold settle Answer.bind ReturnHandler.bindSession
      dsimp only
      split <;> rfl
  | recovered eh v => rfl
  | failure e => rfl

theorem replies_of_ignored (h : Envelope.destination? m = none) : x.replies m s = [] := by
  unfold replies
  rw [dispatch_of_ignored h]
  rfl

theorem replies_of_invalid {e : Json.DecodeError}
    (hto : Envelope.destination? m = some destination)
    (he : Request.decode m.payload.toDoc = .error e) :
    x.replies m s = [Envelope.invalidReply m
      (.invalidRequest (BusError.invalidRequest e).message none)
      (generatedId s.fresh.desk.made)] := by
  unfold replies
  rw [dispatch_of_invalid hto he]
  rfl

theorem replies_of_unregistered (hto : Envelope.destination? m = some destination)
    (hr : Request.decode m.payload.toDoc = .ok r) (hnone : x.registry.get? destination = none) :
    x.replies m s = (Envelope.errorReply
      (Envelope.requestFor m r none (generatedId s.desk.made))
      (.methodNotFound ("Unknown method '" ++ destination ++ "'") none)
      (generatedId s.fresh.desk.made)).toList := by
  unfold replies
  rw [dispatch_of_unregistered hto hr hnone]
  exact Outbox.sent_sendAll true _

theorem replies_of_registered {h : Method σ} (hto : Envelope.destination? m = some destination)
    (hr : Request.decode m.payload.toDoc = .ok r) (hsome : registry.get? destination = some h) :
    let request := Envelope.requestFor m r (some h.info) (generatedId s.desk.made)
    let a := (builtIn registry resolvers).answer h request s.fresh
    (builtIn registry resolvers).replies m s =
      (a.1.reply h.info request (generatedId a.2.desk.made)).toList := by
  intro request a
  unfold replies
  rw [dispatch_of_registered hto hr hsome, handle_eq]
  have hanswer : (builtIn registry resolvers).answer h request (s.fresh.withOutbox {}) =
      (a.1, a.2.withOutbox {}) := answer_withOutbox h request {}
  show (settle h request ((builtIn registry resolvers).answer h request
    (s.fresh.withOutbox {})).1 ((builtIn registry resolvers).answer h request
      (s.fresh.withOutbox {})).2).desk.outbox.sent = _
  rw [hanswer, settle_withOutbox]
  exact Outbox.sent_sendAll true _

/-- How a dispatch ends and what it sends does not depend on the outbox. -/
theorem dispatch_withOutbox (o : Outbox) :
    (builtIn registry resolvers).dispatch m (s.withOutbox o) =
      (((builtIn registry resolvers).dispatch m s).1,
        ((builtIn registry resolvers).dispatch m s).2.withOutbox
          (o.sendAll ((builtIn registry resolvers).replies m s))) := by
  cases hto : Envelope.destination? m with
  | none =>
      rw [dispatch_of_ignored hto, dispatch_of_ignored hto, replies_of_ignored hto,
        Outbox.sendAll_nil]
  | some destination =>
      cases hr : Request.decode m.payload.toDoc with
      | error e =>
          rw [dispatch_of_invalid hto hr, dispatch_of_invalid hto hr, replies_of_invalid hto hr]
          rfl
      | ok r =>
          cases hget : registry.get? destination with
          | none =>
              rw [dispatch_of_unregistered hto hr hget, dispatch_of_unregistered hto hr hget,
                replies_of_unregistered hto hr hget]
              rfl
          | some h =>
              rw [dispatch_of_registered hto hr hget, dispatch_of_registered hto hr hget,
                replies_of_registered hto hr hget, handle_eq, handle_eq]
              rw [show (s.withOutbox o).fresh = s.fresh.withOutbox o from rfl, answer_withOutbox]
              show (_, settle h _ _ (State.withOutbox _ o)) = _
              rw [settle_withOutbox]
              rfl

end Dispatcher

/-! ## Which payloads are owed a reply -/

/-- A payload is owed a reply if it has a text `method` and, in case it is a request, an id. -/
def Envelope.owesReply (p : Json) : Bool :=
  (p.textAt? "method").isSome &&
    match Request.decode p.toDoc with
    | .ok r => r.id.isSome
    | .error _ => true

namespace Dispatcher

/-- A reply to a request is a response, and there is one just when the request has an id. -/
theorem reply_cases {request : RequestMessage} {reply : Option Outbound}
    (h : (∃ details fresh, reply = Envelope.errorReply request details fresh) ∨
      ∃ v type fresh, reply = Envelope.resultReply request v type fresh) :
    (request.payload.id.isSome = true ∧
      ∃ msg response, reply = some msg ∧ msg.payload = .response response) ∨
    (request.payload.id.isSome = false ∧ reply = none) := by
  rcases h with ⟨details, fresh, rfl⟩ | ⟨v, type, fresh, rfl⟩
  · unfold Envelope.errorReply
    cases request.payload.id with
    | none => exact .inr ⟨rfl, rfl⟩
    | some id => exact .inl ⟨rfl, _, _, rfl, rfl⟩
  · unfold Envelope.resultReply
    cases request.payload.id with
    | none => exact .inr ⟨rfl, rfl⟩
    | some id => exact .inl ⟨rfl, _, _, rfl, rfl⟩

/-- A payload that is owed a reply gets one response, and any other payload gets nothing. -/
theorem replies_cases (registry : Registry σ) (resolvers : List (ArgumentResolver σ))
    (m : Inbound) (s : State σ) :
    (Envelope.owesReply m.payload = true ∧ ∃ msg response,
      (builtIn registry resolvers).replies m s = [msg] ∧ msg.payload = .response response) ∨
    (Envelope.owesReply m.payload = false ∧ (builtIn registry resolvers).replies m s = []) := by
  cases hto : Envelope.destination? m with
  | none =>
      have htext : m.payload.textAt? "method" = none := hto
      exact .inr ⟨by simp [Envelope.owesReply, htext], replies_of_ignored hto⟩
  | some destination =>
      have htext : m.payload.textAt? "method" = some destination := hto
      cases hr : Request.decode m.payload.toDoc with
      | error e =>
          refine .inl ⟨by simp [Envelope.owesReply, htext, hr], ?_⟩
          exact ⟨_, _, replies_of_invalid hto hr, rfl⟩
      | ok r =>
          have howes : Envelope.owesReply m.payload = r.id.isSome := by
            simp [Envelope.owesReply, htext, hr]
          -- Found or not found, the reply is one to a request with the id of the payload.
          have hreply : ∃ handler fresh reply,
              (builtIn registry resolvers).replies m s = reply.toList ∧
              let request := Envelope.requestFor m r handler fresh
              ((∃ details fresh, reply = Envelope.errorReply request details fresh) ∨
                ∃ v type fresh, reply = Envelope.resultReply request v type fresh) := by
            cases hget : registry.get? destination with
            | none =>
                exact ⟨none, generatedId s.desk.made, _, replies_of_unregistered hto hr hget,
                  .inl ⟨_, _, rfl⟩⟩
            | some h =>
                refine ⟨some h.info, generatedId s.desk.made, _,
                  replies_of_registered hto hr hget, ?_⟩
                cases ((builtIn registry resolvers).answer h (Envelope.requestFor m r (some h.info)
                    (generatedId s.desk.made)) s.fresh).1 with
                | value v => exact .inr ⟨_, _, _, rfl⟩
                | recovered eh v => exact .inr ⟨_, _, _, rfl⟩
                | failure e => exact .inl ⟨_, _, rfl⟩
          obtain ⟨handler, fresh, reply, heq, hreply⟩ := hreply
          rw [heq, howes]
          rcases reply_cases hreply with ⟨hid, msg, response, rfl, hresponse⟩ | ⟨hid, rfl⟩
          · exact .inl ⟨hid, msg, response, rfl, hresponse⟩
          · exact .inr ⟨hid, rfl⟩

end Dispatcher

end Switchboard
