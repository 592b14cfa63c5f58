/-
# Switchboard.Proofs.Message.Requests -- what an inbound message becomes

The destination of a message is read from its payload as it is, and the request is decoded from
the payload by its own decoder. `Envelope.decodeRequest_told` says that the two agree on the method
and what else comes of a message with a destination: whether it becomes a request, with which id
and parameters, and with which headers. These are those of the message under the request's own
(`get?_requestFor`); a header that a request has nothing of its own to say about stays as it came
in.
-/

import Switchboard.Proofs.Message.Replies
import Switchboard.Proofs.Rpc.Shapes

namespace Switchboard

/-! ## Id and parameters -/

namespace Request

/-- The parameters of a decoded request are those of the object; null ones are absent. -/
theorem params_of_foldFields {fields : List (String × Json)} {s : Slots}
    (h : Json.foldFields Slots.read {} (Json.toDocFields fields) = .ok s)
    (hordered : ∀ v, Entries.find? "params" fields = some v → v.Ordered) :
    s.params.getD none = Rpc.present (Entries.find? "params" fields) := by
  have hslot := Json.slot_of_foldFields "params" Slots.params Rpc.decodeParams
    (fun hr => by
      obtain ⟨v, hv, rfl⟩ := map_eq_ok hr
      exact Json.Slot.fill_eq_ok hv)
    (fun hk hr => by
      rcases Slots.read_eq_ok hr with ⟨_, _, _, _, rfl⟩ | ⟨_, _, _, _, rfl⟩ | ⟨_, _, _, _, rfl⟩ |
        ⟨heq, _⟩ | ⟨_, _, _, _, rfl⟩
      · rfl
      · rfl
      · rfl
      · exact absurd heq hk
      · rfl) h
  rcases hslot with ⟨hfind, hnone⟩ | ⟨v, params, hfind, -, hv, hsome⟩
  · rw [hfind, hnone]
    rfl
  · rw [Rpc.decodeParams_toDoc (hordered v hfind)] at hv
    cases hv
    rw [hfind, hsome]
    rfl

/-- A decoded request has the method of the object, and its id and parameters unless they are null
or absent. -/
theorem get?_of_decode {d : Dict Json} {r : Request} (h : decode (Json.ofDict d).toDoc = .ok r)
    (hordered : (Json.ofDict d).Ordered) :
    d.find? "method" = some (.string r.method) ∧
    r.id.map Id.toJson = Rpc.present (d.find? "id") ∧
    r.params = Rpc.present (d.find? "params") := by
  obtain ⟨hmethod, hids, -⟩ := decode_ok h
  refine ⟨hmethod, ?_, ?_⟩
  · have hfits := (decode_isOk d).1 (Json.isOk_iff.2 ⟨r, h⟩)
    cases hid : r.id with
    | some id =>
        obtain ⟨hnull, hfind⟩ := (hids id).1 hid
        have hne : id.toJson ≠ .null := mt (Id.toJson_eq_null_iff id).1 hnull
        show some id.toJson = Rpc.present (Entries.find? "id" d.entries)
        rw [hfind, Rpc.present, if_neg (by simpa using hne)]
    | none =>
        cases hfind : d.find? "id" with
        | none => rfl
        | some v =>
            -- Any other id than null would have been decoded.
            obtain ⟨id, rfl⟩ := Rpc.isId_iff.1 (hfits.id v hfind)
            have hnull : id = .null := by
              by_contra hne
              cases hid.symm.trans ((hids id).2 ⟨hne, hfind⟩)
            rw [hnull]
            rfl
  · obtain ⟨s, hs, hrest⟩ := bind_eq_ok
      (show (Json.foldFields Slots.read {} (Json.toDocFields d.entries) >>= _) = _ from h)
    obtain ⟨-, -, hrest⟩ := bind_eq_ok hrest
    obtain ⟨method, -, hrest⟩ := bind_eq_ok hrest
    cases hrest
    apply params_of_foldFields hs
    intro v hv
    exact (Json.orderedFields_iff _).1 hordered.2 _ (Entries.mem_of_find? hv)

end Request

/-! ## Messages with a destination -/

namespace Envelope

/-- What a message with a destination becomes for a handler, if it becomes a request. -/
structure Becomes (m : Inbound) (destination : String) (handler : Option MethodInfo)
    (fresh : String) (r : RequestMessage) : Prop where
  /-- The method is the destination. -/
  method : r.payload.method = destination
  /-- The id is that of the payload, if it has one other than null. -/
  id : r.payload.id.map Id.toJson = Rpc.present (m.payload.get? "id")
  /-- So are the parameters. -/
  params : r.payload.params = Rpc.present (m.payload.get? "params")
  /-- The headers name the destination. -/
  messageMethod : r.headers.get? HeaderKey.messageMethod = some (.string destination)
  /-- A request for a handler of subscriptions says so, and which notifications will come. -/
  subscribe : ∀ info notifications, handler = some info → info.kind = .subscribe notifications →
    r.headers.get? HeaderKey.messageType = some (.string "SUBSCRIBE") ∧
    r.headers.get? HeaderKey.subscribeMethod = some (.string notifications)
  /-- Any other request is just one, and of notifications there is what the message says. -/
  request : (∀ info notifications, handler = some info → info.kind ≠ .subscribe notifications) →
    r.headers.get? HeaderKey.messageType = some (.string "REQUEST") ∧
    r.headers.get? HeaderKey.subscribeMethod = m.headers.get? HeaderKey.subscribeMethod
  /-- The id of the request, if it has one, goes before that which came with the message. -/
  correlationId : r.headers.get? HeaderKey.correlationId =
    (r.payload.id.map Id.toJson).or (m.headers.get? HeaderKey.correlationId)
  /-- The request has an identity of its own. -/
  messageId : r.headers.get? HeaderKey.messageId = some (.string fresh)
  /-- All other headers are those of the message. -/
  others : ∀ key, key ∉ [HeaderKey.messageMethod, HeaderKey.messageType,
      HeaderKey.subscribeMethod, HeaderKey.correlationId, HeaderKey.messageId] →
    r.headers.get? key = m.headers.get? key

theorem becomes_requestFor {m : Inbound} {r : Request} (handler : Option MethodInfo)
    (fresh : String) (hid : r.id.map Id.toJson = Rpc.present (m.payload.get? "id"))
    (hparams : r.params = Rpc.present (m.payload.get? "params")) :
    Becomes m r.method handler fresh (requestFor m r handler fresh) := by
  have hnotifications : (handler.bind fun h => h.kind.notifications?) = _ := rfl
  have hget := get?_requestFor m r hnotifications fresh
  refine
    { method := rfl, id := hid, params := hparams, messageMethod := hget _
      subscribe := ?_, request := ?_, correlationId := hget _, messageId := hget _, others := ?_ }
  · intro info notifications hinfo hkind
    have hn : (handler.bind fun h => h.kind.notifications?) = some notifications := by
      rw [hinfo]
      show info.kind.notifications? = _
      rw [hkind]
      rfl
    have hget := get?_requestFor m r hn fresh
    exact ⟨hget _, hget _⟩
  · intro hkind
    have hn : (handler.bind fun h => h.kind.notifications?) = none := by
      cases hinfo : handler with
      | none => rfl
      | some info =>
          cases hk : info.kind with
          | request =>
              show info.kind.notifications? = _
              rw [hk]
              rfl
          | subscribe notifications => exact absurd hk (hkind info notifications hinfo)
    have hget := get?_requestFor m r hn fresh
    exact ⟨hget _, hget _⟩
  · intro key hkey
    simp only [List.mem_cons, List.not_mem_nil, or_false, not_or] at hkey
    obtain ⟨hmethod, htype, hsub, hcorrelation, hmessage⟩ := hkey
    rw [hget, if_neg hmessage, if_neg hcorrelation, if_neg hsub, if_neg htype, if_neg hmethod]

section Destination

variable {m : Inbound} {destination : String} (hto : destination? m = some destination)
  (hordered : m.payload.Ordered) (handler : Option MethodInfo) (fresh : String)

include hto hordered

/-- A message with a destination becomes a request just when marker and id of its payload can be
read. The request calls the destination, and every other message with one is refused as such. That
the payload is ordered holds of every value that was read. -/
theorem decodeRequest_told :
    ((∃ r, decodeRequest m handler fresh = .ok r) ↔
      (∀ v, m.payload.get? "jsonrpc" = some v → Rpc.IsMarker v) ∧
      ∀ v, m.payload.get? "id" = some v → Rpc.IsId v) ∧
    (∀ r, decodeRequest m handler fresh = .ok r → Becomes m destination handler fresh r) ∧
    ∀ e, decodeRequest m handler fresh = .error e → ∃ source, e = .invalidRequest source := by
  obtain ⟨fields, hp, hmethod⟩ := destination?_eq_some.1 hto
  rw [hp] at hordered
  let d : Dict Json := ⟨fields, hordered.1⟩
  have hpayload : m.payload = Json.ofDict d := hp
  have hfits : Request.Fits d ↔ (∀ v, m.payload.get? "jsonrpc" = some v → Rpc.IsMarker v) ∧
      ∀ v, m.payload.get? "id" = some v → Rpc.IsId v := by
    rw [hpayload]
    exact ⟨fun h => ⟨h.marker, h.id⟩, fun h => ⟨⟨_, hmethod⟩, h.1, h.2⟩⟩
  rw [← hfits, ← Request.decode_isOk, ← hpayload]
  cases hread : Request.decode m.payload.toDoc with
  | ok r =>
      rw [decodeRequest_of_ok hread]
      refine ⟨iff_of_true ⟨_, rfl⟩ rfl, ?_, nofun⟩
      intro request hrequest
      cases hrequest
      rw [hpayload] at hread
      obtain ⟨hsame, hid, hparams⟩ := Request.get?_of_decode hread hordered
      obtain rfl : r.method = destination := by
        cases hsame.symm.trans hmethod
        rfl
      exact becomes_requestFor handler fresh (by rwa [hpayload]) (by rwa [hpayload])
  | error e =>
      rw [decodeRequest_of_error hread]
      exact ⟨iff_of_false nofun nofun, nofun, fun _ h => ⟨e, by cases h; rfl⟩⟩

end Destination

/-- A subscription to clock ticks, with the id and the correlation of an earlier message. -/
def ticks : Inbound :=
  ⟨.object [("id", .integer 7), ("method", .string "ticks"), ("params", .null)],
    ⟨.ofList [(HeaderKey.messageId, .string "m"), (HeaderKey.correlationId, .integer 6)]⟩⟩

/-- The handler of subscriptions to clock ticks. -/
def ticksInfo : MethodInfo :=
  ⟨⟨"ticks", "ticks", [], "()", none⟩, .subscribe "tick", "ticks", none, none⟩

theorem decodeRequest_told_ticks :
    destination? ticks = some "ticks" ∧ ticks.payload.Ordered ∧
    ∃ r, decodeRequest ticks (some ticksInfo) "n" = .ok r ∧
      Becomes ticks "ticks" (some ticksInfo) "n" r := by
  have hto : destination? ticks = some "ticks" := rfl
  have hordered : ticks.payload.Ordered := by
    refine ⟨?_, trivial, trivial, trivial, trivial⟩
    unfold Entries.Ascending
    decide
  obtain ⟨hiff, hbecomes, -⟩ := decodeRequest_told hto hordered (some ticksInfo) "n"
  have hread : ∃ r, decodeRequest ticks (some ticksInfo) "n" = .ok r := by
    refine hiff.2 ⟨nofun, ?_⟩
    intro v hv
    cases hv
    exact ⟨by decide, by decide⟩
  obtain ⟨r, hr⟩ := hread
  exact ⟨hto, hordered, r, hr, hbecomes r hr⟩

end Envelope

end Switchboard
