/-
# Switchboard.Proofs.Message.Drafts -- a draft is a map until it is frozen

A draft of finished headers starts as their map without the message id. Operations change this map
one after another, up to the first freeze; from then on every operation is refused, with the key
that it was about, and nothing ever thaws the draft again.

The map is followed beside the draft: `Operation.onMap` is what an operation does to any map from
keys to values, and `mapAfter` what a sequence does of which only the part before the first freeze
counts (`live`). `perform_of_open` and `perform_of_frozen` are the two kinds of steps. By induction
over the operations a draft holds the map and nothing else (`get?_after`), and `tracks_after` says
what this means for every further operation, for the finished headers and for a correlation id that
is read back.
-/

import Mathlib.Logic.Function.Basic
import Switchboard.Message.Headers

namespace Switchboard

namespace HeaderDraft

/-! ## Operations -/

/-- What can be done to a draft. -/
inductive Operation where
  /-- Set a header. -/
  | put (key : String) (value : Json)
  /-- Remove a header. -/
  | remove (key : String)
  /-- Set the session. -/
  | setSessionId (session : String)
  /-- Set the method of the notifications. -/
  | setSubscribeMethod (method : String)
  /-- Set the method that is called. -/
  | setMessageMethod (method : String)
  /-- Set the method that the message is sent under. -/
  | setSendMethod (method : String)
  /-- Set the type of the message. -/
  | setMessageType (type : MessageType)
  /-- Set the id of the request. -/
  | setCorrelationId (id : Id)
  /-- Forbid every later change. -/
  | freeze
deriving DecidableEq

/-- The draft after a change, or the old one if the change is refused. -/
def changedTo (d : HeaderDraft) : Except BusError HeaderDraft →
    Except BusError (Option Json) × HeaderDraft
  | .ok e => (.ok none, e)
  | .error error => (.error error, d)

/-- Does an operation. The answer is the error, if the operation is refused, and else what a removal
tells of the header, if it is one. -/
def perform (d : HeaderDraft) : Operation → Except BusError (Option Json) × HeaderDraft
  | .put key value => d.changedTo (d.put key value)
  | .remove key =>
    match d.remove key with
    | .ok (old, e) => (.ok old, e)
    | .error error => (.error error, d)
  | .setSessionId session => d.changedTo (d.setSessionId session)
  | .setSubscribeMethod method => d.changedTo (d.setSubscribeMethod method)
  | .setMessageMethod method => d.changedTo (d.setMessageMethod method)
  | .setSendMethod method => d.changedTo (d.setSendMethod method)
  | .setMessageType type => d.changedTo (d.setMessageType type)
  | .setCorrelationId id => d.changedTo (d.setCorrelationId id)
  | .freeze => (.ok none, d.freeze)

/-- The draft after some operations, one after another. -/
def after (d : HeaderDraft) (ops : List Operation) : HeaderDraft :=
  ops.foldl (fun d op => (d.perform op).2) d

/-! ## The map -/

namespace Operation

/-- The key of the header that an operation is about. -/
def key? : Operation → Option String
  | put key _ => some key
  | remove key => some key
  | setSessionId _ => some HeaderKey.sessionId
  | setSubscribeMethod _ => some HeaderKey.subscribeMethod
  | setMessageMethod _ => some HeaderKey.messageMethod
  | setSendMethod _ => some HeaderKey.sendMethod
  | setMessageType _ => some HeaderKey.messageType
  | setCorrelationId _ => some HeaderKey.correlationId
  | freeze => none

/-- The value that the header has afterwards. -/
def value? : Operation → Option Json
  | put _ value => some value
  | remove _ => none
  | setSessionId text => some (.string text)
  | setSubscribeMethod text => some (.string text)
  | setMessageMethod text => some (.string text)
  | setSendMethod text => some (.string text)
  | setMessageType type => some (.string type.word)
  | setCorrelationId id => some id.toJson
  | freeze => none

/-- What an operation does to a map of headers. -/
def onMap (op : Operation) (headers : String → Option Json) : String → Option Json :=
  match op.key? with
  | some key => Function.update headers key op.value?
  | none => headers

/-- What a removal tells of a map of headers; nothing else tells anything. -/
def told (headers : String → Option Json) : Operation → Option Json
  | remove key => headers key
  | _ => none

end Operation

/-- The operations before the first freeze. -/
def live (ops : List Operation) : List Operation := ops.takeWhile (· ≠ .freeze)

/-- A map of headers after those operations that count. -/
def mapAfter (headers : String → Option Json) (ops : List Operation) : String → Option Json :=
  (live ops).foldl (fun headers op => op.onMap headers) headers

/-- The map that a draft of finished headers starts from: all of them but the message id. -/
def copied (h : Headers) : String → Option Json :=
  Function.update h.get? HeaderKey.messageId none

variable {d : HeaderDraft} {op : Operation} {ops : List Operation}

@[simp] theorem live_freeze (ops : List Operation) : live (.freeze :: ops) = [] := by
  simp [live]

theorem live_cons (h : op ≠ .freeze) (ops : List Operation) :
    live (op :: ops) = op :: live ops := by
  simp [live, h]

theorem live_of_not_mem (h : .freeze ∉ ops) (later : List Operation) :
    live (ops ++ later) = ops ++ live later := by
  induction ops with
  | nil => rfl
  | cons op ops ih =>
      rw [List.mem_cons, not_or] at h
      rw [List.cons_append, live_cons (Ne.symm h.1), ih h.2, List.cons_append]

/-- What no operation is about stays as it was. -/
theorem foldl_onMap_of_ne {key : String} (h : ∀ op ∈ ops, op.key? ≠ some key)
    (headers : String → Option Json) :
    ops.foldl (fun headers op => op.onMap headers) headers key = headers key := by
  induction ops generalizing headers with
  | nil => rfl
  | cons op ops ih =>
      rw [List.forall_mem_cons] at h
      rw [List.foldl_cons, ih h.2, Operation.onMap]
      cases hkey : op.key? with
      | none => rfl
      | some other =>
          have hne : key ≠ other := fun heq => h.1 (heq ▸ hkey)
          exact Function.update_of_ne hne _ _

/-! ## One operation -/

/-- A setter that is not refused. -/
theorem changedTo_put (h : d.frozen = false) (key : String) (value : Json) :
    d.changedTo (d.put key value) = (.ok none, { d with fields := d.fields.insert key value }) := by
  rw [put_of_not_frozen h]
  rfl

/-- A setter of a frozen draft. -/
theorem changedTo_put_of_frozen (h : d.frozen = true) (key : String) (value : Json) :
    d.changedTo (d.put key value) = (.error (.frozenHeaders key), d) := by
  rw [put_of_frozen h]
  rfl

theorem get?_insert (key : String) (value : Json) :
    ({ d with fields := d.fields.insert key value } : HeaderDraft).get? =
      Function.update d.get? key (some value) := by
  funext j
  simp [get?, Function.update_apply]

theorem get?_erase (key : String) :
    ({ d with fields := d.fields.erase key } : HeaderDraft).get? =
      Function.update d.get? key none := by
  funext j
  simp [get?, Function.update_apply]

/-- All setters set a header in the same way; a removal and a freeze are the other operations. -/
theorem Operation.kinds (op : Operation) :
    (∃ key value, op.key? = some key ∧ op.value? = some value ∧
      (∀ headers, op.told headers = none) ∧
      ∀ d : HeaderDraft, d.perform op = d.changedTo (d.put key value)) ∨
    (∃ key, op = .remove key) ∨ op = .freeze := by
  cases op with
  | remove key => exact .inr (.inl ⟨key, rfl⟩)
  | freeze => exact .inr (.inr rfl)
  | _ => exact .inl ⟨_, _, rfl, rfl, fun _ => rfl, fun _ => rfl⟩

/-- A draft that is not frozen allows every operation, and only a freeze freezes it. -/
theorem perform_of_open (h : d.frozen = false) (op : Operation) :
    (d.perform op).1 = .ok (op.told d.get?) ∧ (d.perform op).2.get? = op.onMap d.get? ∧
      ((d.perform op).2.frozen = true ↔ op = .freeze) := by
  rcases op.kinds with ⟨key, value, hkey, hvalue, htold, hperform⟩ | ⟨key, rfl⟩ | rfl
  · have hne : op ≠ .freeze := by
      rintro rfl
      cases hkey
    have hmap : op.onMap d.get? = Function.update d.get? key (some value) := by
      rw [Operation.onMap, hkey, hvalue]
    rw [hperform, changedTo_put h, htold, hmap, ← get?_insert]
    refine ⟨rfl, rfl, ?_⟩
    show d.frozen = true ↔ _
    simp [h, hne]
  · have hremove : d.perform (.remove key) =
        (.ok (d.fields.find? key), { d with fields := d.fields.erase key }) := by
      simp [perform, HeaderDraft.remove, change, h, Except.map]
    rw [hremove]
    refine ⟨rfl, get?_erase key, ?_⟩
    show d.frozen = true ↔ _
    simp [h]
  · exact ⟨rfl, rfl, by simp [perform, HeaderDraft.freeze]⟩

/-- A frozen draft stays as it is, and whatever would change a header is refused. -/
theorem perform_of_frozen (h : d.frozen = true) (op : Operation) :
    (d.perform op).2 = d ∧
      ∀ key, op.key? = some key → (d.perform op).1 = .error (.frozenHeaders key) := by
  have hrefused : ∀ key, op.key? = some key → d.perform op = (.error (.frozenHeaders key), d) →
      (d.perform op).2 = d ∧
        ∀ key, op.key? = some key → (d.perform op).1 = .error (.frozenHeaders key) := by
    intro key hkey hperform
    rw [hperform]
    refine ⟨rfl, ?_⟩
    intro other hother
    cases hkey.symm.trans hother
    rfl
  rcases op.kinds with ⟨key, value, hkey, _, _, hperform⟩ | ⟨key, rfl⟩ | rfl
  · exact hrefused key hkey ((hperform d).trans (changedTo_put_of_frozen h key value))
  · refine hrefused key rfl ?_
    simp [perform, HeaderDraft.remove, change, h, Except.map]
  · refine ⟨?_, ?_⟩
    · show ({ d with frozen := true } : HeaderDraft) = d
      rw [← h]
    · intro key hkey
      cases hkey

/-! ## Many operations -/

theorem after_of_frozen (h : d.frozen = true) (ops : List Operation) : d.after ops = d := by
  induction ops with
  | nil => rfl
  | cons op ops ih =>
      show (d.perform op).2.after ops = d
      rw [(perform_of_frozen h op).1, ih]

/-- A draft that was not frozen at first holds the map after the operations that count. -/
theorem get?_after (h : d.frozen = false) (ops : List Operation) :
    (d.after ops).get? = mapAfter d.get? ops := by
  induction ops generalizing d with
  | nil => rfl
  | cons op ops ih =>
      obtain ⟨-, hmap, hfrozen⟩ := perform_of_open h op
      show ((d.perform op).2.after ops).get? = _
      by_cases hop : op = .freeze
      · rw [after_of_frozen (hfrozen.2 hop), hmap, hop]
        simp [mapAfter, Operation.onMap, Operation.key?]
      · have hopen : (d.perform op).2.frozen = false := by
          rw [Bool.eq_false_iff]
          exact mt hfrozen.1 hop
        rw [ih hopen, hmap]
        unfold mapAfter
        rw [live_cons hop, List.foldl_cons]

/-- Nothing but a freeze freezes a draft, and nothing thaws it. -/
theorem frozen_after (h : d.frozen = false) (ops : List Operation) :
    (d.after ops).frozen = true ↔ .freeze ∈ ops := by
  induction ops generalizing d with
  | nil => simp [after, h]
  | cons op ops ih =>
      obtain ⟨-, -, hfrozen⟩ := perform_of_open h op
      show ((d.perform op).2.after ops).frozen = true ↔ _
      by_cases hop : op = .freeze
      · rw [after_of_frozen (hfrozen.2 hop), hfrozen]
        simp [hop]
      · have hopen : (d.perform op).2.frozen = false := by
          rw [Bool.eq_false_iff]
          exact mt hfrozen.1 hop
        rw [ih hopen, List.mem_cons, eq_comm (a := Operation.freeze)]
        simp [hop]

theorem get?_ofHeaders_eq (h : Headers) : (ofHeaders h).get? = copied h := by
  funext key
  rw [get?_ofHeaders, copied, Function.update_apply]

/-! ## Drafts of finished headers -/

/-- What holds of a draft of the headers `h` after the operations `ops`. -/
structure Tracks (h : Headers) (ops : List Operation) : Prop where
  /-- It holds the map of the headers without their id, after the operations that count. -/
  get?_eq : ((ofHeaders h).after ops).get? = mapAfter (copied h) ops
  /-- It is frozen if a freeze was among the operations, whatever came later. -/
  frozen_iff : ((ofHeaders h).after ops).frozen = true ↔ .freeze ∈ ops
  /-- Before a freeze every further operation is done; a removal tells what the map had. -/
  performed : .freeze ∉ ops → ∀ op,
    (((ofHeaders h).after ops).perform op).1 = .ok (op.told (mapAfter (copied h) ops))
  /-- After a freeze every further operation leaves the draft as it is, and whatever would change a
  header fails with the key of this header. -/
  refused : .freeze ∈ ops → ∀ op,
    (((ofHeaders h).after ops).perform op).2 = (ofHeaders h).after ops ∧
    ∀ key, op.key? = some key →
      (((ofHeaders h).after ops).perform op).1 = .error (.frozenHeaders key)
  /-- The finished headers are the map, with a new message id just if the map has none. -/
  finished : ∀ fresh key, (((ofHeaders h).after ops).finish fresh).get? key =
    if key = HeaderKey.messageId ∧ mapAfter (copied h) ops HeaderKey.messageId = none then
      some (.string fresh)
    else mapAfter (copied h) ops key
  /-- The id of a request, once it is set, is what the finished headers say, unless an operation
  that counts is about this header again. -/
  correlation : .freeze ∉ ops → ∀ id later,
    (∀ op ∈ live later, op.key? ≠ some HeaderKey.correlationId) → ∀ fresh,
      (((ofHeaders h).after (ops ++ .setCorrelationId id :: later)).finish fresh).correlationId? =
        some id

theorem tracks_after (h : Headers) (ops : List Operation) : Tracks h ops := by
  have hstart : (ofHeaders h).frozen = false := rfl
  have hget : ∀ ops, ((ofHeaders h).after ops).get? = mapAfter (copied h) ops := by
    intro ops
    rw [get?_after hstart, get?_ofHeaders_eq]
  have hfrozen := frozen_after hstart ops
  refine
    { get?_eq := hget ops, frozen_iff := hfrozen, performed := ?_, refused := ?_, finished := ?_
      correlation := ?_ }
  · intro hnot op
    have hopen : ((ofHeaders h).after ops).frozen = false := by
      rw [Bool.eq_false_iff]
      exact mt hfrozen.1 hnot
    rw [(perform_of_open hopen op).1, hget]
  · intro hmem op
    exact perform_of_frozen (hfrozen.2 hmem) op
  · intro fresh key
    rw [get?_finish, hget]
    by_cases hkey : key = HeaderKey.messageId
    · rw [if_pos hkey, hkey]
      cases mapAfter (copied h) ops HeaderKey.messageId <;> simp
    · rw [if_neg hkey, if_neg (fun hboth => hkey hboth.1)]
  · intro hnot id later hlater fresh
    have hset : live (ops ++ .setCorrelationId id :: later) =
        ops ++ .setCorrelationId id :: live later := by
      have hop : Operation.setCorrelationId id ≠ .freeze := by simp
      rw [live_of_not_mem hnot, live_cons hop]
    have hne : HeaderKey.correlationId ≠ HeaderKey.messageId := by decide
    have hheader : (((ofHeaders h).after (ops ++ .setCorrelationId id :: later)).finish fresh).get?
        HeaderKey.correlationId = some id.toJson := by
      rw [get?_finish, if_neg hne, hget, mapAfter, hset, List.foldl_append, List.foldl_cons,
        foldl_onMap_of_ne hlater]
      simp [Operation.onMap, Operation.key?, Operation.value?]
    rw [Headers.correlationId?, hheader]
    exact Id.ofJson?_toJson id

/-- A removed id is replaced by a new one; a later attempt to set it comes too late. -/
example : ((((ofHeaders .empty).after
      [.put HeaderKey.messageId (.string "m"), .remove HeaderKey.messageId, .freeze,
        .put HeaderKey.messageId (.string "late")]).finish "new").get? HeaderKey.messageId) =
    some (.string "new") := by
  decide

end HeaderDraft

end Switchboard
