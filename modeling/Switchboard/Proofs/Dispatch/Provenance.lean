/-
# Switchboard.Proofs.Dispatch.Provenance -- what the library's own messages carry

A dispatch puts messages into the outbox in three ways: the error path sends errors, the library's
return handlers send values, and return handlers of the application do whatever they do. `Desk.Step`
tells the three apart, and `dispatch_leads` says of every dispatcher, with any return handlers of
the application, that all messages of the first two ways conform to the payload and the session
that they answer (`Conforms`).

Nothing is assumed of the return handlers of the application. If they send nothing themselves, all
that is sent conforms (`Desk.Leads.sent`).
-/

import Mathlib.Logic.Relation
import Switchboard.Proofs.Dispatch.Accounting
import Switchboard.Proofs.Rpc.Decoding

namespace Switchboard

variable {σ : Type}

/-! ## How a desk gets its messages -/

namespace ReturnHandler

/-- A return handler sends nothing. -/
def Silent (h : ReturnHandler σ) : Prop :=
  ∀ value type request d, (h.handle value type request d).2.outbox = d.outbox

end ReturnHandler

namespace Desk

/-- One thing that happens to a desk while a message is handled. The library may send a message,
of which `P` holds; `own` are the return handlers of the application. -/
inductive Step (own : List (ReturnHandler σ)) (P : Outbound → Prop) : Desk σ → Desk σ → Prop
  /-- Nothing is sent. -/
  | quiet {d d' : Desk σ} (h : d'.outbox = d.outbox) : Step own P d d'
  /-- The library sends a message. -/
  | send {d d' : Desk σ} {msg : Outbound} (hmsg : P msg)
      (h : d'.outbox = d.outbox.sendAll [msg]) : Step own P d d'
  /-- A return handler of the application deals with a value. -/
  | handled {h : ReturnHandler σ} (hown : h ∈ own) (value : Json) {type : ReturnType}
      (htype : h.supports type = true) (request : RequestMessage) (d : Desk σ) :
      Step own P d (h.handle value type request d).2

/-- One thing after the other. -/
def Leads (own : List (ReturnHandler σ)) (P : Outbound → Prop) : Desk σ → Desk σ → Prop :=
  Relation.ReflTransGen (Step own P)

variable {own : List (ReturnHandler σ)} {P : Outbound → Prop} {d d' : Desk σ}

/-- Where the application's return handlers send nothing, only the library's messages are added to
the outbox. -/
theorem Leads.sent (hown : ∀ h ∈ own, h.Silent) (h : Leads own P d d') :
    ∃ ms, d'.outbox = d.outbox.sendAll ms ∧ ∀ msg ∈ ms, P msg := by
  induction h with
  | refl => exact ⟨[], (Outbox.sendAll_nil _).symm, nofun⟩
  | tail _ hstep ih =>
      obtain ⟨ms, heq, hms⟩ := ih
      cases hstep with
      | quiet h => exact ⟨ms, h.trans heq, hms⟩
      | @send _ _ msg hmsg h =>
          refine ⟨ms ++ [msg], ?_, ?_⟩
          · rw [h, heq, Outbox.sendAll_append]
          · intro n hn
            rcases List.mem_append.1 hn with hn | hn
            · exact hms n hn
            · rw [List.mem_singleton.1 hn]
              exact hmsg
      | handled hmem value htype request => exact ⟨ms, (hown _ hmem _ _ _ _).trans heq, hms⟩

/-- Posting a message is one step. -/
theorem step_post (reply : Option Outbound) (hreply : ∀ msg, reply = some msg → P msg)
    (h : d'.outbox = d.outbox.sendAll reply.toList) : Step own P d d' := by
  cases reply with
  | none => exact .quiet (h.trans (Outbox.sendAll_nil _))
  | some msg => exact .send (hreply msg rfl) h

end Desk

/-! ## The parts of a dispatch -/

namespace ReturnHandler

theorem outbox_bindSession (type : ReturnType) (request : RequestMessage) (d : Desk σ) :
    (bindSession type request d).outbox = d.outbox := by
  unfold bindSession
  split <;> rfl

/-- A value goes to a return handler of the application, or is dealt with as if there were none. -/
theorem handleBy_cases (own : List (ReturnHandler σ)) (value : Json) (type : ReturnType)
    (request : RequestMessage) (d : Desk σ) :
    (∃ h ∈ own, h.supports type = true ∧
      handleBy ([subscribe] ++ own ++ [response]) value type request d =
        h.handle value type request d) ∨
    handleBy ([subscribe] ++ own ++ [response]) value type request d =
      handleBy [subscribe, response] value type request d := by
  cases htype : type.subscribeMethod with
  | some method => exact .inr (by simp [handleBy, subscribe, htype])
  | none =>
      cases hfind : own.find? fun h => h.supports type with
      | some h =>
          refine .inl ⟨h, List.mem_of_find?_eq_some hfind, by simpa using List.find?_some hfind, ?_⟩
          simp [handleBy, subscribe, htype, hfind]
      | none => exact .inr (by simp [handleBy, subscribe, response, htype, hfind])

end ReturnHandler

namespace Dispatcher

open Desk

variable {x : Dispatcher σ} {own : List (ReturnHandler σ)} {P : Outbound → Prop}
  {request : RequestMessage} {s : State σ} {h : Method σ} {e : Failure}

/-- An error is sent in one step. -/
theorem leads_sendError {details : ErrorDetails} {d : Desk σ}
    (herror : ∀ fresh msg, Envelope.errorReply request details fresh = some msg → P msg) :
    Leads own P d (sendError request details d) := by
  rw [sendError_eq]
  exact .single (step_post _ (herror _) rfl)

section Own

variable (hx : x.returnHandlers = [.subscribe] ++ own ++ [.response])

include hx

/-- A call sends at most its value, unless the value goes to the application. -/
theorem leads_run {f : Function σ} {params : List Param} {type : ReturnType}
    {provided : List Argument} {d : Desk σ}
    (hvalue : ∀ v, f.Yields params x.argumentResolvers provided request d.app v →
      ∀ fresh msg, Envelope.resultReply request v type fresh = some msg → P msg) :
    Leads own P d (x.run f params type provided request d).2 := by
  cases hinvoke : f.invoke params x.argumentResolvers provided request d.app with
  | mk result app =>
      cases result with
      | error e =>
          rw [run_of_error type hinvoke]
          exact .single (.quiet rfl)
      | ok v =>
          have hy : f.Yields params x.argumentResolvers provided request d.app v :=
            Function.invoke_ok_iff.1 (by rw [hinvoke])
          have hrun : (x.run f params type provided request d).2 =
              (ReturnHandler.handleBy x.returnHandlers v type request { d with app }).2 := by
            unfold run
            rw [hinvoke]
          -- First the function changes the application, then its value is dealt with.
          have hquiet : Step own P d { d with app } := .quiet rfl
          rw [hrun, hx]
          rcases ReturnHandler.handleBy_cases own v type request { d with app } with
            ⟨k, hk, htype, heq⟩ | heq
          · rw [heq]
            exact .tail (.single hquiet) (.handled hk v htype request _)
          · rw [heq, ReturnHandler.handleBy_builtIn]
            refine .tail (.single hquiet)
              (step_post (Envelope.resultReply request v type (generatedId d.made))
                (hvalue v hy _) ?_)
            exact congrArg (Outbox.sendAll · _) (ReturnHandler.outbox_bindSession _ _ _)

/-- Recovering sends an error or what an exception handler gives. -/
theorem leads_recover {i : MethodInfo}
    (herror : ∀ details fresh msg, Envelope.errorReply request details fresh = some msg → P msg)
    (hvalue : ∀ owner eh v, i.owner = some owner → (x.exceptionHandler? owner e s).1 = some eh →
      eh.function.Yields eh.signature.params x.argumentResolvers (provided i e) request s.desk.app
        v → ∀ fresh msg, Envelope.resultReply request v eh.returnType fresh = some msg → P msg) :
    Leads own P s.desk (x.recover i request e s).2.desk := by
  unfold recover
  cases howner : i.owner with
  | none => exact leads_sendError (herror _)
  | some owner =>
      dsimp only
      split
      · next s₁ hchoice =>
          have hdesk : s₁.desk = s.desk := congrArg (fun p => p.2.desk) hchoice.symm
          rw [← hdesk]
          exact leads_sendError (herror _)
      · next eh s₁ hchoice =>
          -- Choosing an exception handler leaves the desk alone.
          have hdesk : s₁.desk = s.desk := congrArg (fun p => p.2.desk) hchoice.symm
          have hrun : Leads own P s₁.desk (s₁.onDesk (x.run eh.function eh.signature.params
              eh.returnType (provided i e) request)).2.desk := by
            refine leads_run hx fun v hy => ?_
            rw [hdesk] at hy
            exact hvalue owner eh v howner (by rw [hchoice]) hy
          rw [← hdesk]
          split
          · next u s₂ hresult =>
              rw [hresult] at hrun
              exact hrun
          · next e₁ s₂ hresult =>
              rw [hresult] at hrun
              exact hrun.trans (leads_sendError (herror _))
          · next p s₂ hresult =>
              rw [hresult] at hrun
              exact hrun

/-- A handler comes to a failure, by itself or because its value could not be dealt with, and the
exception handler that its owner has for the failure gives a value. -/
def Rescues (x : Dispatcher σ) (h : Method σ) (request : RequestMessage) (s : State σ)
    (eh : ExceptionHandler σ) (v : Json) : Prop :=
  ∃ e s₁ owner, s.onDesk (x.run h.function h.info.signature.params h.info.returnType [] request) =
      (.failed e, s₁) ∧ h.info.owner = some owner ∧ (x.exceptionHandler? owner e s₁).1 = some eh ∧
    eh.function.Yields eh.signature.params x.argumentResolvers (provided h.info e) request
      s₁.desk.app v

/-- Handling a request sends what the handler gives, what an exception handler gives, or an error. -/
theorem leads_handle
    (herror : ∀ details fresh msg, Envelope.errorReply request details fresh = some msg → P msg)
    (hvalue : ∀ v, x.Yields h request s v →
      ∀ fresh msg, Envelope.resultReply request v h.info.returnType fresh = some msg → P msg)
    (hrescue : ∀ eh v, x.Rescues h request s eh v →
      ∀ fresh msg, Envelope.resultReply request v eh.returnType fresh = some msg → P msg) :
    Leads own P s.desk (x.handle h request s).2.desk := by
  have hrun : Leads own P s.desk (s.onDesk (x.run h.function h.info.signature.params
      h.info.returnType [] request)).2.desk := leads_run hx hvalue
  unfold handle
  cases hresult : s.onDesk (x.run h.function h.info.signature.params h.info.returnType []
      request) with
  | mk result s₁ =>
      rw [hresult] at hrun
      cases result with
      | value u => exact hrun
      | panicked p => exact hrun
      | failed e =>
          refine hrun.trans (leads_recover hx herror ?_)
          intro owner eh v howner hchoice hy
          exact hrescue eh v ⟨e, s₁, owner, hresult, howner, hchoice, hy⟩

end Own

end Dispatcher

/-! ## What conforms -/

namespace Envelope

variable {m : Inbound} {destination : String} {r : Request}

/-- What a decoded request has in common with the payload. -/
theorem get?_of_decoded (hto : destination? m = some destination)
    (hr : Request.decode m.payload.toDoc = .ok r) :
    m.payload.get? "method" = some (.string r.method) ∧
    (∀ id, r.id = some id ↔ id ≠ .null ∧ m.payload.get? "id" = some id.toJson) ∧
    (r.marked = true ↔ m.payload.get? "jsonrpc" = some (.string "2.0")) := by
  obtain ⟨fields, hp, _⟩ := destination?_eq_some.1 hto
  rw [hp] at hr ⊢
  exact Request.decode_ok hr

/-- The headers of a reply that are of interest to those who get it. -/
theorem headers_stamped (session sendMethod subscribeMethod : Option String)
    (correlation : Option Id) (fresh : String) :
    let headers := stamped session sendMethod subscribeMethod correlation fresh
    headers.get? HeaderKey.sessionId = session.map .string ∧
    headers.get? HeaderKey.messageType = some (.string "RESPONSE") ∧
    headers.get? HeaderKey.correlationId = correlation.map Id.toJson ∧
    headers.get? HeaderKey.sendMethod = sendMethod.map .string ∧
    headers.get? HeaderKey.subscribeMethod = subscribeMethod.map .string := by
  simp [get?_stamped, HeaderKey.sessionId, HeaderKey.sendMethod, HeaderKey.messageType,
    HeaderKey.correlationId, HeaderKey.subscribeMethod, HeaderKey.messageId, MessageType.word]

end Envelope

namespace Dispatcher

/-- What holds of a message that the library sends when a payload is dispatched that came in on a
session. -/
structure Conforms (x : Dispatcher σ) (session : String) (m : Inbound) (s : State σ)
    (msg : Outbound) : Prop where
  /-- It goes to the session, whatever the payload contains. -/
  session_eq : msg.headers.get? HeaderKey.sessionId = some (.string session)
  /-- It is a response. -/
  type_eq : msg.headers.get? HeaderKey.messageType = some (.string "RESPONSE")
  isResponse : ∃ reply, msg.payload = .response reply
  /-- It is marked just when the payload is. -/
  marker_eq : msg.payload.toJson.get? "jsonrpc" =
    if m.payload.get? "jsonrpc" = some (.string "2.0") then some (.string "2.0") else none
  /-- A payload that is no request is answered by an error without any reference to a request. -/
  invalid : ∀ e, Request.decode m.payload.toDoc = .error e →
    msg.payload.toJson.get? "id" = some .null ∧
    msg.headers.get? HeaderKey.correlationId = none ∧
    msg.headers.get? HeaderKey.sendMethod = none ∧
    msg.headers.get? HeaderKey.subscribeMethod = none ∧
    ∃ marked details, msg.payload = .response ⟨marked, .null, .error details⟩
  /-- Else payload and headers refer to the request by its id, which is not null. -/
  id_eq : ∀ r, Request.decode m.payload.toDoc = .ok r → ∃ id, id ≠ .null ∧
    m.payload.get? "id" = some id ∧ msg.payload.toJson.get? "id" = some id ∧
    msg.headers.get? HeaderKey.correlationId = some id
  /-- An error is sent under the method of the request. -/
  error : ∀ r marked id details, Request.decode m.payload.toDoc = .ok r →
    msg.payload = .response ⟨marked, id, .error details⟩ →
      msg.headers.get? HeaderKey.sendMethod = m.payload.get? "method" ∧
      msg.headers.get? HeaderKey.subscribeMethod = none
  /-- A value comes from the handler or from an exception handler of its owner. It is sent under
  the method that is declared with whom it comes from, or else under that of the request; only a
  handler of subscriptions names notifications. -/
  success : ∀ r marked id v, Request.decode m.payload.toDoc = .ok r →
    msg.payload = .response ⟨marked, id, .success v⟩ →
      ∃ destination h, Envelope.destination? m = some destination ∧
        x.registry.get? destination = some h ∧
        let request := Envelope.requestFor m r (some h.info) (generatedId s.desk.made)
        (x.Yields h request s.fresh v ∧
          msg.headers.get? HeaderKey.sendMethod =
            (h.info.signature.responseMethod.map .string).or (m.payload.get? "method") ∧
          msg.headers.get? HeaderKey.subscribeMethod =
            h.info.kind.notifications?.map .string) ∨
        (∃ eh, x.Rescues h request s.fresh eh v ∧
          msg.headers.get? HeaderKey.sendMethod =
            (eh.signature.responseMethod.map .string).or (m.payload.get? "method") ∧
          msg.headers.get? HeaderKey.subscribeMethod = none)

variable {x : Dispatcher σ} {own : List (ReturnHandler σ)} {session destination fresh : String}
  {m : Inbound} {s : State σ} {r : Request} {msg : Outbound} {handler : Option MethodInfo}

theorem conforms_invalidReply {e : Json.DecodeError} {details : ErrorDetails}
    (hs : m.headers.sessionId? = some session) (he : Request.decode m.payload.toDoc = .error e) :
    Conforms x session m s (Envelope.invalidReply m details fresh) := by
  have hheaders := Envelope.headers_stamped (some session) none none none fresh
  obtain ⟨hsession, htype, hcorrelation, hsend, hsubscribe⟩ := hheaders
  unfold Envelope.invalidReply
  rw [hs]
  have hjson := Response.get?_toJson { Response.error .null details with
    marked := m.payload.textAt? "jsonrpc" = some "2.0" }
  have hmarker : m.payload.textAt? "jsonrpc" = some "2.0" ↔
      m.payload.get? "jsonrpc" = some (.string "2.0") := by
    unfold Json.textAt?
    cases hv : m.payload.get? "jsonrpc" with
    | none => simp
    | some v => cases v <;> simp [Json.text?]
  refine
    { session_eq := hsession, type_eq := htype, isResponse := ⟨_, rfl⟩, marker_eq := ?_
      invalid := fun _ _ => ⟨hjson.1, hcorrelation, hsend, hsubscribe, _, _, rfl⟩
      id_eq := by simp [he], error := by simp [he], success := by simp [he] }
  refine hjson.2.trans ?_
  simp only [decide_eq_true_eq, hmarker]

/-- What is common to all replies to a request. -/
theorem conforms_of_decoded {id : Id} {content : ResponsePayload} {sendMethod : String}
    {subscribeMethod : Option String} (hto : Envelope.destination? m = some destination)
    (hr : Request.decode m.payload.toDoc = .ok r) (hid : r.id = some id)
    (herror : ∀ details, content = .error details →
      sendMethod = r.method ∧ subscribeMethod = none)
    (hsuccess : ∀ v, content = .success v → ∃ h, x.registry.get? destination = some h ∧
      let request := Envelope.requestFor m r (some h.info) (generatedId s.desk.made)
      (x.Yields h request s.fresh v ∧
        sendMethod = h.info.signature.responseMethod.getD r.method ∧
        subscribeMethod = h.info.kind.notifications?) ∨
      (∃ eh, x.Rescues h request s.fresh eh v ∧
        sendMethod = eh.signature.responseMethod.getD r.method ∧ subscribeMethod = none)) :
    Conforms x session m s ⟨.response ⟨r.marked, id, content⟩,
      Envelope.stamped (some session) (some sendMethod) subscribeMethod (some id) fresh⟩ := by
  obtain ⟨hmethod, hids, hmarked⟩ := Envelope.get?_of_decoded hto hr
  obtain ⟨hnull, hpayload⟩ := (hids id).1 hid
  obtain ⟨hsession, htype, hcorrelation, hsend, hsubscribe⟩ :=
    Envelope.headers_stamped (some session) (some sendMethod) subscribeMethod (some id) fresh
  have hjson := Response.get?_toJson ⟨r.marked, id, content⟩
  have hdeclared : ∀ declared : Option String, (declared.map Json.string).or
      (m.payload.get? "method") = some (.string (declared.getD r.method)) := by
    intro declared
    rw [hmethod]
    cases declared <;> rfl
  refine
    { session_eq := hsession, type_eq := htype, isResponse := ⟨_, rfl⟩, marker_eq := ?_
      invalid := by simp [hr], id_eq := ?_, error := ?_, success := ?_ }
  · refine hjson.2.trans ?_
    simp only [hmarked]
  · -- The id was read from the payload and is written to payload and header of the reply.
    intro _ _
    refine ⟨id.toJson, fun hv => hnull ?_, hpayload, hjson.1, hcorrelation⟩
    exact Id.toJson_inj (i := id) (j := .null) hv
  · intro _ marked id' details _ heq
    obtain ⟨hm, hnone⟩ := herror details (by cases heq; rfl)
    rw [hmethod, ← hm]
    exact ⟨hsend, by rw [hsubscribe, hnone]; rfl⟩
  · intro r' marked id' v hr' heq
    rw [hr] at hr'
    cases hr'
    obtain ⟨h, hget, hfrom⟩ := hsuccess v (by cases heq; rfl)
    refine ⟨destination, h, hto, hget, ?_⟩
    rcases hfrom with ⟨hy, hm, hnotify⟩ | ⟨eh, hrescue, hm, hnone⟩
    · refine .inl ⟨hy, ?_, by rw [hsubscribe, hnotify]⟩
      rw [hsend, hdeclared, hm]
      rfl
    · refine .inr ⟨eh, hrescue, ?_, by rw [hsubscribe, hnone]; rfl⟩
      rw [hsend, hdeclared, hm]
      rfl

theorem conforms_errorReply {details : ErrorDetails} (hs : m.headers.sessionId? = some session)
    (hto : Envelope.destination? m = some destination)
    (hr : Request.decode m.payload.toDoc = .ok r) {f : String}
    (hmsg : Envelope.errorReply (Envelope.requestFor m r handler f) details fresh = some msg) :
    Conforms x session m s msg := by
  obtain ⟨id, hid, rfl⟩ := Option.map_eq_some_iff.1 hmsg
  rw [Envelope.sessionId?_requestFor, hs]
  exact conforms_of_decoded hto hr hid (fun _ _ => ⟨rfl, rfl⟩) nofun

/-- All that the library sends for a message conforms. -/
theorem dispatch_leads (hx : x.returnHandlers = [.subscribe] ++ own ++ [.response])
    (hs : m.headers.sessionId? = some session) :
    Desk.Leads own (Conforms x session m s) s.desk (x.dispatch m s).2.desk := by
  have hfresh : Desk.Step own (Conforms x session m s) s.desk s.fresh.desk := .quiet rfl
  cases hto : Envelope.destination? m with
  | none =>
      rw [dispatch_of_ignored hto]
      exact .refl
  | some destination =>
      cases hr : Request.decode m.payload.toDoc with
      | error e =>
          rw [dispatch_of_invalid hto hr]
          refine .tail (.single hfresh) (.send ?_ rfl)
          exact conforms_invalidReply hs hr
      | ok r =>
          cases hget : x.registry.get? destination with
          | none =>
              rw [dispatch_of_unregistered hto hr hget]
              refine .tail (.single hfresh) (Desk.step_post _ ?_ rfl)
              exact fun msg hmsg => conforms_errorReply hs hto hr hmsg
          | some h =>
              rw [dispatch_of_registered hto hr hget]
              -- Errors, the value of the handler, and that of an exception handler.
              refine .head hfresh (leads_handle hx ?_ ?_ ?_)
              · exact fun details fresh msg hmsg => conforms_errorReply hs hto hr hmsg
              · intro v hy fresh msg hmsg
                obtain ⟨id, hid, rfl⟩ := Option.map_eq_some_iff.1 hmsg
                rw [Envelope.sessionId?_requestFor, hs]
                refine conforms_of_decoded hto hr hid nofun fun w hw => ⟨h, hget, .inl ?_⟩
                cases hw
                exact ⟨hy, rfl, rfl⟩
              · intro eh v hrescue fresh msg hmsg
                obtain ⟨id, hid, rfl⟩ := Option.map_eq_some_iff.1 hmsg
                rw [Envelope.sessionId?_requestFor, hs]
                refine conforms_of_decoded hto hr hid nofun fun w hw => ⟨h, hget, .inr ?_⟩
                cases hw
                exact ⟨eh, hrescue, rfl, rfl⟩

end Dispatcher

end Switchboard
