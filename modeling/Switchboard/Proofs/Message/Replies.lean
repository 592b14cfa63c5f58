/-
# Switchboard.Proofs.Message.Replies -- what the envelope stamps on its messages

Every reply is stamped by `Envelope.stamped`: the type, and of session, id, method and
notifications what is given. The functions of the envelope never fail on the way, since none of
their drafts is frozen; `response_eq`, `errorResponse_eq` and `invalidRequest_eq` are their values
as plain terms, and `get?_stamped` reads any header back.
-/

import Switchboard.Message.Envelope

namespace Switchboard

/-! ## Drafts that may be changed -/

namespace HeaderDraft

/-- Sets a header of a draft that is not frozen. -/
def set (d : HeaderDraft) (key : String) (value : Json) : HeaderDraft :=
  { d with fields := d.fields.insert key value }

/-- Sets a header if there is a value for it. -/
def setIf (d : HeaderDraft) (key : String) : Option Json → HeaderDraft
  | some value => d.set key value
  | none => d

variable {d : HeaderDraft} {key j : String}

@[simp] theorem frozen_set (value : Json) : (d.set key value).frozen = d.frozen := rfl

@[simp] theorem frozen_setIf (value : Option Json) : (d.setIf key value).frozen = d.frozen := by
  cases value <;> rfl

theorem put_eq (h : d.frozen = false) (value : Json) : d.put key value = .ok (d.set key value) :=
  put_of_not_frozen h key value

@[simp] theorem get?_set (value : Json) :
    (d.set key value).get? j = if j = key then some value else d.get? j := by
  simp [set, get?]

@[simp] theorem get?_setIf (value : Option Json) :
    (d.setIf key value).get? j = if j = key then value.or (d.get? j) else d.get? j := by
  cases value with
  | none => simp [setIf]
  | some v =>
      by_cases hj : j = key
      · simp [setIf, hj]
      · simp [setIf, hj]

end HeaderDraft

namespace Envelope

open HeaderDraft

/-- Setting a header that may be absent, by a setter that sets the header `key`. -/
theorem setIfSome_eq {α : Type} {set : HeaderDraft → α → Except BusError HeaderDraft}
    {key : String} {encode : α → Json} {d : HeaderDraft} (h : d.frozen = false)
    (hset : ∀ a, set d a = d.put key (encode a)) (v : Option α) :
    setIfSome set v d = .ok (d.setIf key (v.map encode)) := by
  cases v with
  | none => rfl
  | some a =>
      show set d a = .ok (d.set key (encode a))
      rw [hset, put_eq h]

/-! ## Replies -/

/-- The draft of a reply. -/
def replyDraft (session sendMethod subscribeMethod : Option String) (correlation : Option Id) :
    HeaderDraft :=
  ((((HeaderDraft.new.setIf HeaderKey.sendMethod (sendMethod.map .string)).set
    HeaderKey.messageType (.string MessageType.response.word)).setIf
      HeaderKey.correlationId (correlation.map Id.toJson)).setIf
        HeaderKey.sessionId (session.map .string)).setIf
          HeaderKey.subscribeMethod (subscribeMethod.map .string)

/-- The headers of a reply. -/
def stamped (session sendMethod subscribeMethod : Option String) (correlation : Option Id)
    (fresh : String) : Headers :=
  (replyDraft session sendMethod subscribeMethod correlation).finish fresh

section Stamped

variable (session sendMethod subscribeMethod : Option String) (correlation : Option Id)
  (fresh : String)

/-- The headers of a reply are what it was stamped with, its type, an id, and nothing else. -/
theorem get?_stamped (j : String) :
    (stamped session sendMethod subscribeMethod correlation fresh).get? j =
      if j = HeaderKey.messageId then some (.string fresh)
      else if j = HeaderKey.subscribeMethod then subscribeMethod.map .string
      else if j = HeaderKey.sessionId then session.map .string
      else if j = HeaderKey.correlationId then correlation.map Id.toJson
      else if j = HeaderKey.messageType then some (.string MessageType.response.word)
      else if j = HeaderKey.sendMethod then sendMethod.map .string
      else none := by
  have hnew : ∀ k, HeaderDraft.new.get? k = none := fun _ => rfl
  have hid : (replyDraft session sendMethod subscribeMethod correlation).get?
      HeaderKey.messageId = none := by
    simp [replyDraft, hnew, HeaderKey.sessionId, HeaderKey.sendMethod, HeaderKey.messageType,
      HeaderKey.correlationId, HeaderKey.subscribeMethod, HeaderKey.messageId]
  rw [stamped, get?_finish, hid]
  by_cases hmessage : j = HeaderKey.messageId
  · rw [if_pos hmessage, if_pos hmessage]
    rfl
  rw [if_neg hmessage, if_neg hmessage]
  unfold replyDraft
  simp only [get?_set, get?_setIf, hnew]
  -- No two of the keys are equal, so at most one of the conditions holds.
  by_cases hsub : j = HeaderKey.subscribeMethod
  · subst hsub
    simp [HeaderKey.sessionId, HeaderKey.sendMethod, HeaderKey.messageType,
      HeaderKey.correlationId, HeaderKey.subscribeMethod]
  by_cases hsession : j = HeaderKey.sessionId
  · subst hsession
    simp [HeaderKey.sessionId, HeaderKey.sendMethod, HeaderKey.messageType,
      HeaderKey.correlationId, HeaderKey.subscribeMethod]
  by_cases hcorrelation : j = HeaderKey.correlationId
  · subst hcorrelation
    simp [HeaderKey.sessionId, HeaderKey.sendMethod, HeaderKey.messageType,
      HeaderKey.correlationId, HeaderKey.subscribeMethod]
  simp [hsub, hsession, hcorrelation]

end Stamped

/-- The headers of every reply to a request with an id. -/
theorem replyHeaders_eq (request : RequestMessage) (sendMethod : String) (id : Id) :
    replyHeaders request sendMethod id =
      .ok (replyDraft request.headers.sessionId? (some sendMethod) none (some id)) := by
  have hsession : ∀ {d : HeaderDraft}, d.frozen = false →
      setIfSome setSessionId request.headers.sessionId? d =
        .ok (d.setIf HeaderKey.sessionId (request.headers.sessionId?.map .string)) :=
    fun h => setIfSome_eq h (fun _ => rfl) _
  unfold replyHeaders setSendMethod setMessageType setCorrelationId
  rw [put_eq rfl]
  exact hsession rfl

/-- A result is answered just when the request has an id. -/
theorem response_eq (request : RequestMessage) (result : Json) (sendMethod : String)
    (subscribeMethod : Option String) (fresh : String) :
    response request result sendMethod subscribeMethod fresh =
      .ok (request.payload.id.map fun id =>
        ⟨.response { Response.success id result with marked := request.payload.marked },
          stamped request.headers.sessionId? (some sendMethod) subscribeMethod (some id)
            fresh⟩) := by
  unfold response
  cases request.payload.id with
  | none => rfl
  | some id =>
      have hsub : setIfSome setSubscribeMethod subscribeMethod
          (replyDraft request.headers.sessionId? (some sendMethod) none (some id)) =
            .ok (replyDraft request.headers.sessionId? (some sendMethod) subscribeMethod
              (some id)) :=
        setIfSome_eq (by simp [replyDraft, HeaderDraft.new]) (fun _ => rfl) _
      show (replyHeaders request sendMethod id >>= fun draft =>
        setIfSome setSubscribeMethod subscribeMethod draft >>= fun draft => _) = _
      rw [replyHeaders_eq]
      show (setIfSome setSubscribeMethod subscribeMethod _ >>= fun draft => _) = _
      rw [hsub]
      rfl

/-- An error is answered just when the request has an id. -/
theorem errorResponse_eq (request : RequestMessage) (details : ErrorDetails) (fresh : String) :
    errorResponse request details fresh =
      .ok (request.payload.id.map fun id =>
        ⟨.response { Response.error id details with marked := request.payload.marked },
          stamped request.headers.sessionId? (some request.payload.method) none (some id)
            fresh⟩) := by
  unfold errorResponse
  cases request.payload.id with
  | none => rfl
  | some id =>
      show (replyHeaders request request.payload.method id >>= fun draft => _) = _
      rw [replyHeaders_eq]
      rfl

/-- A payload that is no request is always answered. -/
theorem invalidRequest_eq (m : Inbound) (details : ErrorDetails) (fresh : String) :
    invalidRequest m details fresh =
      .ok ⟨.response { Response.error .null details with
            marked := m.payload.textAt? "jsonrpc" = some "2.0" },
          stamped m.headers.sessionId? none none none fresh⟩ := by
  have hsession : setIfSome setSessionId m.headers.sessionId?
      (replyDraft none none none none) = .ok (replyDraft m.headers.sessionId? none none none) :=
    setIfSome_eq rfl (fun _ => rfl) _
  show (setIfSome setSessionId m.headers.sessionId? (replyDraft none none none none) >>=
    fun draft => _) = _
  rw [hsession]
  rfl

/-! ## Requests -/

/-- A message has a destination just when its payload is an object with a text `method`. -/
theorem destination?_eq_some {m : Inbound} {destination : String} :
    destination? m = some destination ↔ ∃ fields, m.payload = .object fields ∧
      Entries.find? "method" fields = some (.string destination) := by
  unfold destination? Json.textAt? Json.get?
  constructor
  · intro h
    cases hp : m.payload with
    | object fields =>
        rw [hp] at h
        obtain ⟨v, hv, htext⟩ := Option.bind_eq_some_iff.1 h
        cases v with
        | string t =>
            cases htext
            exact ⟨fields, rfl, hv⟩
        | _ => cases htext
    | _ => rw [hp] at h; cases h
  · rintro ⟨fields, hp, hfind⟩
    rw [hp]
    show (Entries.find? "method" fields).bind Json.text? = some destination
    rw [hfind]
    rfl

/-- A payload that is no request is refused. -/
theorem decodeRequest_of_error {m : Inbound} {e : Json.DecodeError}
    (h : Request.decode m.payload.toDoc = .error e) (handler : Option MethodInfo)
    (fresh : String) : decodeRequest m handler fresh = .error (.invalidRequest e) := by
  unfold decodeRequest
  rw [h]
  rfl

/-- The draft of a request's headers. -/
def requestDraft (m : Inbound) (r : Request) (notifications : Option String) : HeaderDraft :=
  let type : MessageType := if notifications.isSome then .subscribe else .request
  ((((HeaderDraft.ofHeaders m.headers).set HeaderKey.messageMethod (.string r.method)).set
    HeaderKey.messageType (.string type.word)).setIf
      HeaderKey.subscribeMethod (notifications.map .string)).setIf
        HeaderKey.correlationId (r.id.map Id.toJson)

/-- The request that a message with the payload `r` makes for a handler. -/
def requestFor (m : Inbound) (r : Request) (handler : Option MethodInfo) (fresh : String) :
    RequestMessage :=
  ⟨r, (requestDraft m r (handler.bind fun h => h.kind.notifications?)).finish fresh⟩

/-- The headers of a request are its own above those of the message. What stands in none of its
own headers, or in one that it has nothing to say about, is taken over from the message. -/
theorem get?_requestFor (m : Inbound) (r : Request) {handler : Option MethodInfo}
    {notifications : Option String}
    (h : (handler.bind fun h => h.kind.notifications?) = notifications) (fresh j : String) :
    (requestFor m r handler fresh).headers.get? j =
      if j = HeaderKey.messageId then some (.string fresh)
      else if j = HeaderKey.correlationId then (r.id.map Id.toJson).or (m.headers.get? j)
      else if j = HeaderKey.subscribeMethod then
        (notifications.map .string).or (m.headers.get? j)
      else if j = HeaderKey.messageType then
        some (.string (if notifications.isSome then "SUBSCRIBE" else "REQUEST"))
      else if j = HeaderKey.messageMethod then some (.string r.method)
      else m.headers.get? j := by
  have hid : (requestDraft m r notifications).get? HeaderKey.messageId = none := by
    simp [requestDraft, get?_ofHeaders, HeaderKey.messageMethod, HeaderKey.messageType,
      HeaderKey.correlationId, HeaderKey.subscribeMethod, HeaderKey.messageId]
  unfold requestFor
  rw [h, get?_finish, hid]
  by_cases hmessage : j = HeaderKey.messageId
  · rw [if_pos hmessage, if_pos hmessage]
    rfl
  rw [if_neg hmessage, if_neg hmessage]
  unfold requestDraft
  simp only [get?_setIf, get?_set, get?_ofHeaders, if_neg hmessage]
  -- No two of the keys are equal, so at most one of the conditions holds.
  by_cases hcorrelation : j = HeaderKey.correlationId
  · subst hcorrelation
    simp [HeaderKey.messageMethod, HeaderKey.messageType, HeaderKey.correlationId,
      HeaderKey.subscribeMethod]
  by_cases hsub : j = HeaderKey.subscribeMethod
  · subst hsub
    simp [HeaderKey.messageMethod, HeaderKey.messageType, HeaderKey.correlationId,
      HeaderKey.subscribeMethod]
  by_cases htype : j = HeaderKey.messageType
  · subst htype
    cases notifications <;>
      simp [HeaderKey.messageType, HeaderKey.correlationId, HeaderKey.subscribeMethod,
        MessageType.word]
  simp [hcorrelation, hsub, htype]

/-- A payload that is a request becomes one. -/
theorem decodeRequest_of_ok {m : Inbound} {r : Request}
    (h : Request.decode m.payload.toDoc = .ok r) (handler : Option MethodInfo) (fresh : String) :
    decodeRequest m handler fresh = .ok (requestFor m r handler fresh) := by
  have hsub : ∀ {d : HeaderDraft} (v : Option String), d.frozen = false →
      setIfSome setSubscribeMethod v d =
        .ok (d.setIf HeaderKey.subscribeMethod (v.map .string)) :=
    fun v h => setIfSome_eq h (fun _ => rfl) v
  have hcorrelation : ∀ {d : HeaderDraft} (v : Option Id), d.frozen = false →
      setIfSome setCorrelationId v d =
        .ok (d.setIf HeaderKey.correlationId (v.map Id.toJson)) :=
    fun v h => setIfSome_eq h (fun _ => rfl) v
  have hfinish : ∀ draft : HeaderDraft, draft.frozen = false →
      (setIfSome setSubscribeMethod (handler.bind fun h => h.kind.notifications?) draft >>=
        fun draft => setIfSome setCorrelationId r.id draft >>=
          fun draft => (.ok ⟨r, draft.finish fresh⟩ : Except BusError RequestMessage)) =
      .ok ⟨r, ((draft.setIf HeaderKey.subscribeMethod
        ((handler.bind fun h => h.kind.notifications?).map .string)).setIf
          HeaderKey.correlationId (r.id.map Id.toJson)).finish fresh⟩ := by
    intro draft hdraft
    rw [hsub _ hdraft]
    show (setIfSome setCorrelationId r.id _ >>= fun draft => _) = _
    rw [hcorrelation _ (by rw [frozen_setIf]; exact hdraft)]
    rfl
  unfold decodeRequest
  rw [h]
  exact hfinish _ rfl

/-- A request is on the session of the message that it came in. -/
theorem sessionId?_requestFor (m : Inbound) (r : Request) (handler : Option MethodInfo)
    (fresh : String) : (requestFor m r handler fresh).headers.sessionId? = m.headers.sessionId? := by
  unfold Headers.sessionId? Headers.text?
  rw [get?_requestFor m r rfl]
  rfl

end Envelope

end Switchboard
