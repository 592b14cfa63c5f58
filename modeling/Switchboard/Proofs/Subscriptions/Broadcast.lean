/-
# Switchboard.Proofs.Subscriptions.Broadcast -- who gets a broadcast

A broadcast makes one notification for each session that is bound to its method, in the order of the
sessions, and sends them one after the other (`Desk.broadcast_ok`). Which of them are accepted is up
to the channel, and the broadcast counts those that were, also where a channel accepts some and
refuses others (`sendEach_outbox`). A payload without a JSON form is found out with the first
session, so it makes no difference where there is none.

`Agrees` joins this to the view of the subscriptions as a set of pairs: after any calls the sessions
that a broadcast goes to are those of the set, on a desk as well as on a bus.
-/

import Switchboard.Proofs.Bus.Projection
import Switchboard.Proofs.Subscriptions.Pairs

namespace Switchboard

variable {σ : Type}

/-! ## Notifications -/

namespace Envelope

variable (session method fresh : String) (params : Json)

/-- A notification as it is sent. -/
def notice : Outbound :=
  ⟨.notification { method, params := some params },
    (((HeaderDraft.new.set HeaderKey.sessionId (.string session)).set HeaderKey.sendMethod
      (.string method)).set HeaderKey.messageType
        (.string MessageType.notification.word)).finish fresh⟩

theorem notification_eq :
    notification session method (some params) fresh = .ok (notice session method fresh params) :=
  rfl

/-- The headers of a notification are its session, its method, its type, an id, and nothing else. -/
theorem get?_notice (j : String) : (notice session method fresh params).headers.get? j =
    if j = HeaderKey.messageId then some (.string fresh)
    else if j = HeaderKey.messageType then some (.string MessageType.notification.word)
    else if j = HeaderKey.sendMethod then some (.string method)
    else if j = HeaderKey.sessionId then some (.string session)
    else none := by
  have hnew : ∀ k, HeaderDraft.new.get? k = none := fun _ => rfl
  have hid : (((HeaderDraft.new.set HeaderKey.sessionId (.string session)).set
      HeaderKey.sendMethod (.string method)).set HeaderKey.messageType
        (.string MessageType.notification.word)).get? HeaderKey.messageId = none := by
    simp [hnew, HeaderKey.messageId, HeaderKey.messageType, HeaderKey.sendMethod,
      HeaderKey.sessionId]
  unfold notice
  rw [HeaderDraft.get?_finish, hid]
  simp only [HeaderDraft.get?_set, hnew]
  rfl

/-- A notification goes to its session. -/
theorem sessionId?_notice :
    (notice session method fresh params).headers.sessionId? = some session := by
  simp [Headers.sessionId?, Headers.text?, get?_notice, HeaderKey.messageId, HeaderKey.messageType,
    HeaderKey.sendMethod, HeaderKey.sessionId, Json.text?]

theorem sendMethod?_notice :
    (notice session method fresh params).headers.sendMethod? = some method := by
  simp [Headers.sendMethod?, Headers.text?, get?_notice, HeaderKey.messageId,
    HeaderKey.messageType, HeaderKey.sendMethod, Json.text?]

theorem messageType?_notice :
    (notice session method fresh params).headers.messageType? = some .notification := by
  simp [Headers.messageType?, Headers.text?, get?_notice, HeaderKey.messageId,
    HeaderKey.messageType, Json.text?]
  decide

/-- One notification for each session, with ids from a number on. -/
def notices (method : String) (params : Json) : Nat → List String → List Outbound
  | _, [] => []
  | made, session :: rest =>
    notice session method (generatedId made) params :: notices method params (made + 1) rest

end Envelope

/-- What it is to be one notification with the given params for each of some sessions. -/
structure Announces (method : String) (params : Json) (sessions : List String)
    (ms : List Outbound) : Prop where
  /-- The messages go to the sessions, one to each, in the same order. -/
  sessions_eq : ms.map (fun m => m.headers.sessionId?) = sessions.map some
  /-- Each is a notification of the method with these params. -/
  payload_eq : ∀ m ∈ ms, m.payload = .notification { method, params := some params }
  /-- Its headers say so, too. -/
  headers_eq : ∀ m ∈ ms, m.headers.sendMethod? = some method ∧
    m.headers.messageType? = some .notification

theorem Envelope.announces_notices (method : String) (params : Json) (made : Nat)
    (sessions : List String) :
    Announces method params sessions (notices method params made sessions) := by
  induction sessions generalizing made with
  | nil => exact ⟨rfl, nofun, nofun⟩
  | cons session rest ih =>
      have hrest := ih (made + 1)
      refine ⟨?_, ?_, ?_⟩
      · simp only [notices, List.map_cons, sessionId?_notice, hrest.sessions_eq]
      · intro m hm
        rcases List.mem_cons.1 hm with rfl | hm
        · rfl
        · exact hrest.payload_eq m hm
      · intro m hm
        rcases List.mem_cons.1 hm with rfl | hm
        · exact ⟨sendMethod?_notice _ _ _ _, messageType?_notice _ _ _ _⟩
        · exact hrest.headers_eq m hm

/-! ## Sending one after the other -/

/-- Sends messages one after the other, on whatever they can be sent on; counts those that were
accepted. -/
def sendEach {γ : Type} (send : γ → Outbound → Bool × γ) : γ → List Outbound → Nat × γ
  | c, [] => (0, c)
  | c, m :: ms =>
    let (accepted, c) := send c m
    let (n, c) := sendEach send c ms
    (if accepted then n + 1 else n, c)

/-- An outbox is offered all of them, and those that it accepts are counted. -/
theorem sendEach_outbox (o : Outbox) (ms : List Outbound) :
    sendEach Outbox.send o ms = ((o.accepted ms).length, o.sendAll ms) := by
  induction ms generalizing o with
  | nil => simp [sendEach, Outbox.accepted, Reception.accepted]
  | cons m ms ih =>
      have hrest := ih (o.send m).2
      have hsent : (o.send m).2.sendAll ms = o.sendAll (m :: ms) := by
        rw [Outbox.send_snd, Outbox.sendAll_append]
        rfl
      have haccepted : o.accepted (m :: ms) =
          (if (o.send m).1 then [m] else []) ++ (o.send m).2.accepted ms := rfl
      rw [hsent] at hrest
      simp only [sendEach, hrest, haccepted]
      cases (o.send m).1 <;> simp

namespace Channel

/-- A channel accepts all or nothing, while nothing else happens to it. -/
theorem sendEach_send (c : Channel Outbound) (ms : List Outbound) :
    sendEach Channel.send c ms =
      (if c.accepts then ms.length else 0, ms.foldl (fun c m => (c.send m).2) c) := by
  induction ms generalizing c with
  | nil => simp [sendEach]
  | cons m ms ih =>
      simp only [sendEach, ih, accepts_send, send_fst]
      cases c.accepts <;> simp

theorem foldl_send_of_not_accepts {c : Channel Outbound} (h : c.accepts = false)
    (ms : List Outbound) : ms.foldl (fun c m => (c.send m).2) c = c := by
  induction ms with
  | nil => rfl
  | cons m ms ih =>
      rw [List.foldl_cons, send_of_not_accepts h]
      exact ih

end Channel

namespace Desk

/-! ## On a desk -/

theorem notify_ok (session method typeName : String) (params : Json) (d : Desk σ) :
    d.notify session method typeName (.ok params) =
      (.ok (d.outbox.send (Envelope.notice session method (generatedId d.made) params)).1,
        { d with
          outbox := (d.outbox.send (Envelope.notice session method (generatedId d.made) params)).2
          made := d.made + 1 }) := by
  simp only [notify, Envelope.notification_eq]
  rfl

theorem notifyAll_ok (method typeName : String) (params : Json) (accepted : Nat)
    (sessions : List String) (d : Desk σ) :
    d.notifyAll method typeName (.ok params) accepted sessions =
      (.ok (accepted +
          (sendEach Outbox.send d.outbox (Envelope.notices method params d.made sessions)).1),
        { d with
          outbox :=
            (sendEach Outbox.send d.outbox (Envelope.notices method params d.made sessions)).2
          made := d.made + sessions.length }) := by
  induction sessions generalizing d accepted with
  | nil => rfl
  | cons session rest ih =>
      have hmade : d.made + 1 + rest.length = d.made + (rest.length + 1) := by omega
      unfold notifyAll
      rw [notify_ok]
      dsimp only
      rw [ih]
      simp only [Envelope.notices, sendEach, List.length_cons, hmade]
      split
      · rw [Nat.add_right_comm, Nat.add_assoc]
      · rfl

/-- A payload without a JSON form is found out with the first session. -/
theorem notifyAll_error (method typeName : String) (reason : String) (accepted : Nat)
    (sessions : List String) (d : Desk σ) :
    d.notifyAll method typeName (.error reason) accepted sessions =
      (if sessions = [] then .ok accepted else .error (.badResult typeName reason), d) := by
  cases sessions with
  | nil => rfl
  | cons session rest => rfl

/-- The notifications of a broadcast. -/
def notices (d : Desk σ) (method : String) (params : Json) : List Outbound :=
  Envelope.notices method params d.made (d.subscriptions.sessionsFor method)

theorem broadcast_ok (d : Desk σ) (method typeName : String) (params : Json) :
    d.broadcast method typeName (.ok params) =
      (.ok (sendEach Outbox.send d.outbox (d.notices method params)).1,
        { d with
          outbox := (sendEach Outbox.send d.outbox (d.notices method params)).2
          made := d.made + (d.subscriptions.sessionsFor method).length }) := by
  unfold broadcast
  rw [notifyAll_ok, Nat.zero_add]
  rfl

theorem subscriptions_broadcast (d : Desk σ) (method typeName : String) (params : Json) :
    (d.broadcast method typeName (.ok params)).2.subscriptions = d.subscriptions := by
  rw [broadcast_ok]

theorem broadcast_error (d : Desk σ) (method typeName : String) (reason : String) :
    d.broadcast method typeName (.error reason) =
      (if d.subscriptions.sessionsFor method = [] then .ok 0
        else .error (.badResult typeName reason), d) :=
  notifyAll_error method typeName reason 0 _ d

end Desk

/-! ## On a bus -/

namespace Bus

/-- What a notification puts into the outbox of the desk. -/
theorem posted_notify (b : Bus σ) (session method typeName : String) (params : Json) :
    b.posted (fun s => s.onDesk fun d => d.notify session method typeName (.ok params)) =
      if b.outbound.accepts then
        [Envelope.notice session method (generatedId b.state.desk.made) params]
      else [] := by
  show (Outbox.send { accepting := b.outbound.accepts } _).2.sent = _
  cases b.outbound.accepts <;> rfl

/-- What a broadcast puts into the outbox of the desk. -/
theorem posted_broadcast (b : Bus σ) (method typeName : String) (params : Json) :
    b.posted (fun s => s.onDesk fun d => d.broadcast method typeName (.ok params)) =
      if b.outbound.accepts then b.state.desk.notices method params else [] := by
  show (b.bench.desk.broadcast method typeName (.ok params)).2.outbox.sent = _
  rw [Desk.broadcast_ok, sendEach_outbox]
  exact Outbox.sent_sendAll b.outbound.accepts (b.state.desk.notices method params)

theorem broadcast_ok (b : Bus σ) (method typeName : String) (params : Json) :
    (b.broadcast method typeName (.ok params)).1 =
        .ok (sendEach Channel.send b.outbound (b.state.desk.notices method params)).1 ∧
      (b.broadcast method typeName (.ok params)).2.outbound =
        (sendEach Channel.send b.outbound (b.state.desk.notices method params)).2 := by
  rw [Channel.sendEach_send]
  constructor
  · show (b.bench.desk.broadcast method typeName (.ok params)).1 = _
    have hall : b.bench.desk.outbox.accepted (b.state.desk.notices method params) =
        if b.outbound.accepts then b.state.desk.notices method params else [] :=
      Outbox.accepted_coe b.outbound.accepts _
    rw [Desk.broadcast_ok, sendEach_outbox]
    show Except.ok (b.bench.desk.outbox.accepted (b.state.desk.notices method params)).length = _
    rw [hall]
    cases b.outbound.accepts <;> rfl
  · rw [broadcast, outbound_work, posted_broadcast]
    cases hacc : b.outbound.accepts with
    | true => rfl
    | false => exact (Channel.foldl_send_of_not_accepts hacc _).symm

theorem broadcast_error (b : Bus σ) (method typeName reason : String) :
    (b.broadcast method typeName (.error reason)).1 =
        (if b.state.desk.subscriptions.sessionsFor method = [] then .ok 0
          else .error (.badResult typeName reason)) ∧
      (b.broadcast method typeName (.error reason)).2.outbound = b.outbound := by
  constructor
  · show (b.bench.desk.broadcast method typeName (.error reason)).1 = _
    rw [Desk.broadcast_error]
    rfl
  · have hposted : b.posted (fun s => s.onDesk fun d =>
        d.broadcast method typeName (.error reason)) = [] := by
      show (b.bench.desk.broadcast method typeName (.error reason)).2.outbox.sent = _
      rw [Desk.broadcast_error]
      rfl
    rw [broadcast, outbound_work, hposted]
    rfl

end Bus

/-! ## Calls and broadcasts -/

namespace Subscriptions

/-- How the subscriptions agree with a set of pairs, after calls that were made one after the other
from the beginning. -/
structure Agrees (calls : List Call) : Prop where
  /-- Every call has answered as the set does. -/
  answers_eq : (Call.all Call.on .empty calls).1 = (Call.all Call.onPairs ∅ calls).1
  /-- What is bound are the pairs of the set. -/
  isBound_iff : ∀ session method,
    (Call.all Call.on .empty calls).2.isBound session method = true ↔
      (session, method) ∈ (Call.all Call.onPairs ∅ calls).2
  /-- No method is kept without sessions. -/
  tidy : (Call.all Call.on .empty calls).2.Tidy
  /-- The sessions of a method are those of the set. -/
  mem_sessionsFor : ∀ session method,
    session ∈ (Call.all Call.on .empty calls).2.sessionsFor method ↔
      (session, method) ∈ (Call.all Call.onPairs ∅ calls).2
  /-- They are listed in strictly ascending order. -/
  ascending : ∀ method,
    ((Call.all Call.on .empty calls).2.sessionsFor method).Pairwise (· < ·)
  /-- A broadcast sends one notification to each of them in this order, sends nothing else, and
  gives the number of those that were accepted, however the channel answers to each of them. -/
  desk_broadcast : ∀ {σ : Type} (d : Desk σ) (method typeName : String) (params : Json),
    d.subscriptions = (Call.all Call.on .empty calls).2 →
      ∃ ms, Announces method params (d.subscriptions.sessionsFor method) ms ∧
        (d.broadcast method typeName (.ok params)).1 = .ok (sendEach Outbox.send d.outbox ms).1 ∧
        (d.broadcast method typeName (.ok params)).2.outbox =
          (sendEach Outbox.send d.outbox ms).2 ∧
        sendEach Outbox.send d.outbox ms = ((d.outbox.accepted ms).length, d.outbox.sendAll ms)
  /-- So does a broadcast of a bus, on the outbound channel. -/
  bus_broadcast : ∀ {σ : Type} (b : Bus σ) (method typeName : String) (params : Json),
    b.state.desk.subscriptions = (Call.all Call.on .empty calls).2 →
      ∃ ms, Announces method params (b.state.desk.subscriptions.sessionsFor method) ms ∧
        (b.broadcast method typeName (.ok params)).1 =
          .ok (sendEach Channel.send b.outbound ms).1 ∧
        (b.broadcast method typeName (.ok params)).2.outbound =
          (sendEach Channel.send b.outbound ms).2
  /-- A payload without a JSON form is sent to nobody, and that is an error just when there is
  somebody to whom it should go. -/
  desk_unsendable : ∀ {σ : Type} (d : Desk σ) (method typeName reason : String),
    d.subscriptions = (Call.all Call.on .empty calls).2 →
      (d.broadcast method typeName (.error reason)).2.outbox = d.outbox ∧
      ((d.broadcast method typeName (.error reason)).1 = .error (.badResult typeName reason) ↔
        ∃ session, (session, method) ∈ (Call.all Call.onPairs ∅ calls).2) ∧
      ((d.broadcast method typeName (.error reason)).1 = .ok 0 ↔
        ¬∃ session, (session, method) ∈ (Call.all Call.onPairs ∅ calls).2)
  /-- The same holds on a bus. -/
  bus_unsendable : ∀ {σ : Type} (b : Bus σ) (method typeName reason : String),
    b.state.desk.subscriptions = (Call.all Call.on .empty calls).2 →
      (b.broadcast method typeName (.error reason)).2.outbound = b.outbound ∧
      ((b.broadcast method typeName (.error reason)).1 = .error (.badResult typeName reason) ↔
        ∃ session, (session, method) ∈ (Call.all Call.onPairs ∅ calls).2) ∧
      ((b.broadcast method typeName (.error reason)).1 = .ok 0 ↔
        ¬∃ session, (session, method) ∈ (Call.all Call.onPairs ∅ calls).2)

/-- What a broadcast of a payload without a JSON form gives tells whether anybody is bound. -/
theorem unsendable_iff {s : Subscriptions} {method : String} {e : BusError}
    {result : Except BusError Nat}
    (h : result = if s.sessionsFor method = [] then .ok 0 else .error e) :
    (result = .error e ↔ ∃ session, (session, method) ∈ s.pairs) ∧
      (result = .ok 0 ↔ ¬∃ session, (session, method) ∈ s.pairs) := by
  have hsome : (∃ session, (session, method) ∈ s.pairs) ↔ s.sessionsFor method ≠ [] := by
    simp only [← Subscriptions.mem_sessionsFor]
    exact ⟨fun ⟨_, hin⟩ => List.ne_nil_of_mem hin, List.exists_mem_of_ne_nil _⟩
  rw [hsome, h]
  by_cases hnone : s.sessionsFor method = []
  · simp [hnone]
  · simp [hnone]

/-- The subscriptions agree with a set of pairs, whatever the calls. -/
theorem agrees_of_calls (calls : List Call) : Agrees calls := by
  have hall : Call.all Call.onPairs ∅ calls =
      ((Call.all Call.on .empty calls).1, (Call.all Call.on .empty calls).2.pairs) :=
    Call.all_pairs .empty calls
  have hpairs : (Call.all Call.onPairs ∅ calls).2 = (Call.all Call.on .empty calls).2.pairs :=
    congrArg Prod.snd hall
  refine
    { answers_eq := (congrArg Prod.fst hall).symm, isBound_iff := ?_
      tidy := tidy_empty.all calls, mem_sessionsFor := ?_
      ascending := fun _ => sessionsFor_pairwise, desk_broadcast := ?_, bus_broadcast := ?_
      desk_unsendable := ?_, bus_unsendable := ?_ }
  · intro session method
    rw [hpairs, mem_pairs]
  · intro session method
    rw [hpairs, Subscriptions.mem_sessionsFor]
  · intro σ d method typeName params _
    refine ⟨d.notices method params, Envelope.announces_notices _ _ _ _, ?_, ?_,
      sendEach_outbox _ _⟩
    · rw [Desk.broadcast_ok]
    · rw [Desk.broadcast_ok]
  · intro σ b method typeName params _
    exact ⟨b.state.desk.notices method params, Envelope.announces_notices _ _ _ _,
      b.broadcast_ok method typeName params⟩
  · intro σ d method typeName reason hd
    have hresult := Desk.broadcast_error d method typeName reason
    rw [hpairs, ← hd]
    exact ⟨by rw [hresult], unsendable_iff (by rw [hresult])⟩
  · intro σ b method typeName reason hb
    obtain ⟨hresult, houtbound⟩ := b.broadcast_error method typeName reason
    rw [hpairs, ← hb]
    exact ⟨houtbound, unsendable_iff hresult⟩

/-- A channel that refuses the second of three notifications. -/
example :
    let subscriptions := Subscriptions.empty.bind "one" "news" |>.2.bind "two" "news"
      |>.2.bind "three" "news" |>.2
    let refusing : Reception := { accepts := fun offered _ => offered.length != 1 }
    let d : Desk Unit := { app := (), subscriptions, outbox := { accepting := refusing } }
    let (count, d) := d.broadcast "news" "" (.ok .null)
    count = .ok 2 ∧ d.outbox.offered.length = 3 ∧
      d.outbox.sent.map (fun m => m.headers.sessionId?) = [some "one", some "two"] := by
  exact ⟨rfl, rfl, rfl⟩

end Subscriptions

end Switchboard
