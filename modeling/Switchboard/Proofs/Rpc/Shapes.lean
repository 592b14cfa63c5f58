/-
# Switchboard.Proofs.Rpc.Shapes -- which objects are read as which message

The three shapes overlap: nothing but its `id` tells a request from a notification, a response may
have fields of any name, and most fields may be left out or be null. So the decoders are tried in
order, and `RpcMessage.told` says for every object what comes of it.

For each shape there is a predicate on the object alone, `Fits`, and a lemma that its decoder takes
just the objects that fit (`decode_isOk`). Two facts about records carry these lemmas: fields of
different names can be read just when each can be read by itself (`Json.isOk_foldFields`), and a
slot is filled just when there is a field of its name (`Json.isSome_of_foldFields`). A response
keeps its other fields for the payload (`Response.payload_of_foldFields`), which is an error if an
error can be read, and else a result.
-/

import Switchboard.Proofs.Rpc.RoundTrip

namespace Switchboard

/-! ## Values of single fields -/

namespace Rpc

/-- A version marker is fine if it is null or says the one version there is. -/
def IsMarker (v : Json) : Prop := v = .null ∨ v = .string "2.0"

/-- The values that are ids: null, integers of 64 bits and texts. -/
def IsId : Json → Prop
  | .null => True
  | .integer n => Int64.minValue.toInt ≤ n ∧ n ≤ Int64.maxValue.toInt
  | .string _ => True
  | _ => False

theorem decodeMarked_isOk (v : Json) : (decodeMarked v.toDoc).isOk = true ↔ IsMarker v := by
  rw [Json.isOk_iff]
  constructor
  · rintro ⟨marked, h⟩
    exact (decodeMarked_ok h).imp And.left And.left
  · rintro (rfl | rfl)
    · exact ⟨false, rfl⟩
    · exact ⟨true, rfl⟩

theorem decodeMethod_isOk (v : Json) :
    (decodeMethod v.toDoc).isOk = true ↔ ∃ s, v = .string s := by
  rw [Json.isOk_iff]
  constructor
  · rintro ⟨s, h⟩
    exact ⟨s, decodeMethod_ok h⟩
  · rintro ⟨s, rfl⟩
    exact ⟨s, rfl⟩

@[simp] theorem decodeParams_isOk (v : Json) : (decodeParams v.toDoc).isOk = true := by
  by_cases hv : v = .null
  · subst hv
    rfl
  · obtain ⟨w, hw⟩ := Json.exists_asJson_toDoc v
    unfold decodeParams
    rw [Json.asOption_toDoc _ hv, Json.isOk_map, hw]
    rfl

end Rpc

/-- The ids as they are written are the values that can be read as ids. -/
theorem Rpc.isId_iff {v : Json} : IsId v ↔ ∃ id : Id, id.toJson = v := by
  constructor
  · intro h
    cases v with
    | null => exact ⟨.null, rfl⟩
    | string s => exact ⟨.text s, rfl⟩
    | integer n =>
        have hfits : Id.ofInt? n = some (.number (Int64.ofInt n)) := if_pos h
        exact ⟨_, Id.toJson_of_ofInt? hfits⟩
    | bool b => exact h.elim
    | float x => exact h.elim
    | array items => exact h.elim
    | object fields => exact h.elim
  · rintro ⟨id, rfl⟩
    cases id with
    | null => trivial
    | number n => exact ⟨n.minValue_le_toInt, n.toInt_le⟩
    | text s => trivial

theorem Id.decode_isOk (v : Json) : (decode v.toDoc).isOk = true ↔ Rpc.IsId v := by
  rw [Json.isOk_iff, Rpc.isId_iff]
  constructor
  · rintro ⟨id, h⟩
    exact ⟨id, toJson_of_decode h⟩
  · rintro ⟨id, rfl⟩
    exact ⟨id, decode_toDoc id⟩

theorem Rpc.decodeOptionalId_isOk (v : Json) :
    (decodeOptionalId v.toDoc).isOk = true ↔ IsId v := by
  by_cases hv : v = .null
  · subst hv
    exact iff_of_true rfl trivial
  · unfold decodeOptionalId
    rw [Json.asOption_toDoc _ hv, Json.isOk_map, Id.decode_isOk]

/-! ## Calls -/

namespace Notification

/-- The objects that are read as notifications. -/
structure Fits (d : Dict Json) : Prop where
  /-- There are no fields but those of a notification. -/
  known : ∀ k v, d.find? k = some v → k = "jsonrpc" ∨ k = "method" ∨ k = "params"
  /-- The method is a text. -/
  method : ∃ s, d.find? "method" = some (.string s)
  /-- The version is that of the protocol, if there is one. -/
  marker : ∀ v, d.find? "jsonrpc" = some v → Rpc.IsMarker v

theorem Slots.isOk_read (s : Slots) (k : String) (d : Json.Doc) : (s.read k d).isOk =
    match k with
    | "jsonrpc" => s.marked.isNone && (Rpc.decodeMarked d).isOk
    | "method" => s.method.isNone && (Rpc.decodeMethod d).isOk
    | "params" => s.params.isNone && (Rpc.decodeParams d).isOk
    | _ => false := by
  unfold read
  split
  all_goals simp only [Json.isOk_error, Json.isOk_map, Json.Slot.isOk_fill]

/-- Reading one field fills the slot of its name. -/
theorem Slots.read_eq_ok {s t : Slots} {k : String} {d : Json.Doc} (h : s.read k d = .ok t) :
    (k = "jsonrpc" ∧ ∃ v, t = { s with marked := some v }) ∨
    (k = "method" ∧ ∃ v, t = { s with method := some v }) ∨
    (k = "params" ∧ ∃ v, t = { s with params := some v }) := by
  unfold read at h
  split at h
  · obtain ⟨-, w, -, rfl⟩ := Json.Slot.map_fill_eq_ok h
    exact .inl ⟨rfl, w, rfl⟩
  · obtain ⟨-, w, -, rfl⟩ := Json.Slot.map_fill_eq_ok h
    exact .inr (.inl ⟨rfl, w, rfl⟩)
  · obtain ⟨-, w, -, rfl⟩ := Json.Slot.map_fill_eq_ok h
    exact .inr (.inr ⟨rfl, w, rfl⟩)
  · cases h

theorem Slots.independent_read : Json.Independent Slots.read := by
  intro s t k j d hread hne e
  rw [isOk_read, isOk_read]
  rcases read_eq_ok hread with ⟨rfl, v, rfl⟩ | ⟨rfl, v, rfl⟩ | ⟨rfl, v, rfl⟩
  all_goals split <;> simp_all

theorem Slots.isSome_method {s t : Slots} {k : String} {d : Json.Doc} (h : s.read k d = .ok t) :
    t.method.isSome = (decide (k = "method") || s.method.isSome) := by
  rcases read_eq_ok h with ⟨rfl, v, rfl⟩ | ⟨rfl, v, rfl⟩ | ⟨rfl, v, rfl⟩ <;> rfl

theorem decode_isOk (d : Dict Json) : (decode (Json.ofDict d).toDoc).isOk = true ↔ Fits d := by
  refine (Json.isOk_record Slots.independent_read Slots.isSome_method rfl _ d).trans ?_
  simp only [Slots.isOk_read]
  constructor
  · rintro ⟨hall, ⟨v, hv⟩, -⟩
    refine ⟨?_, ?_, ?_⟩
    · intro k w hw
      have hknown := hall k w hw
      grind
    · obtain ⟨m, rfl⟩ := (Rpc.decodeMethod_isOk v).1 (hall "method" v hv)
      exact ⟨m, hv⟩
    · intro w hw
      exact (Rpc.decodeMarked_isOk w).1 (hall "jsonrpc" w hw)
  · rintro ⟨hknown, ⟨m, hm⟩, hmarker⟩
    refine ⟨?_, ⟨_, hm⟩, fun _ _ _ _ => rfl⟩
    intro k v hv
    rcases hknown k v hv with rfl | rfl | rfl
    · exact (Rpc.decodeMarked_isOk v).2 (hmarker v hv)
    · exact (Rpc.decodeMethod_isOk v).2 ⟨m, Option.some.inj (hv.symm.trans hm)⟩
    · exact Rpc.decodeParams_isOk v

end Notification

namespace Request

/-- The objects that are read as requests, if not as notifications. -/
structure Fits (d : Dict Json) : Prop where
  /-- The method is a text. -/
  method : ∃ s, d.find? "method" = some (.string s)
  /-- The version is that of the protocol, if there is one. -/
  marker : ∀ v, d.find? "jsonrpc" = some v → Rpc.IsMarker v
  /-- The id is an id, if there is one. -/
  id : ∀ v, d.find? "id" = some v → Rpc.IsId v

theorem Slots.isOk_read (s : Slots) (k : String) (d : Json.Doc) : (s.read k d).isOk =
    match k with
    | "jsonrpc" => s.marked.isNone && (Rpc.decodeMarked d).isOk
    | "id" => s.id.isNone && (Rpc.decodeOptionalId d).isOk
    | "method" => s.method.isNone && (Rpc.decodeMethod d).isOk
    | "params" => s.params.isNone && (Rpc.decodeParams d).isOk
    | _ => d.ignore.isOk := by
  unfold read
  split <;> simp only [Json.isOk_map, Json.Slot.isOk_fill]

theorem Slots.independent_read : Json.Independent Slots.read := by
  intro s t k j d hread hne e
  rw [isOk_read, isOk_read]
  rcases read_eq_ok hread with ⟨rfl, -, v, -, rfl⟩ | ⟨rfl, -, v, -, rfl⟩ | ⟨rfl, -, v, -, rfl⟩ |
    ⟨rfl, v, rfl⟩ | ⟨-, -, -, -, rfl⟩
  · split <;> simp_all
  · split <;> simp_all
  · split <;> simp_all
  · split <;> simp_all
  · rfl

theorem Slots.isSome_method {s t : Slots} {k : String} {d : Json.Doc} (h : s.read k d = .ok t) :
    t.method.isSome = (decide (k = "method") || s.method.isSome) := by
  rcases read_eq_ok h with ⟨rfl, -, v, -, rfl⟩ | ⟨rfl, -, v, -, rfl⟩ | ⟨rfl, -, v, -, rfl⟩ |
    ⟨rfl, v, rfl⟩ | ⟨-, -, hne, -, rfl⟩
  · rfl
  · rfl
  · rfl
  · rfl
  · simp [hne]

theorem decode_isOk (d : Dict Json) : (decode (Json.ofDict d).toDoc).isOk = true ↔ Fits d := by
  refine (Json.isOk_record Slots.independent_read Slots.isSome_method rfl _ d).trans ?_
  simp only [Slots.isOk_read]
  constructor
  · rintro ⟨hall, ⟨v, hv⟩, -⟩
    refine ⟨?_, ?_, ?_⟩
    · obtain ⟨m, rfl⟩ := (Rpc.decodeMethod_isOk v).1 (hall "method" v hv)
      exact ⟨m, hv⟩
    · intro w hw
      exact (Rpc.decodeMarked_isOk w).1 (hall "jsonrpc" w hw)
    · intro w hw
      exact (Rpc.decodeOptionalId_isOk w).1 (hall "id" w hw)
  · rintro ⟨⟨m, hm⟩, hmarker, hid⟩
    refine ⟨?_, ⟨_, hm⟩, fun _ _ _ _ => rfl⟩
    intro k v hv
    split
    · exact (Rpc.decodeMarked_isOk v).2 (hmarker v hv)
    · exact (Rpc.decodeOptionalId_isOk v).2 (hid v hv)
    · exact (Rpc.decodeMethod_isOk v).2 ⟨m, Option.some.inj (hv.symm.trans hm)⟩
    · exact Rpc.decodeParams_isOk v
    · rw [Json.ignore_toDoc]
      rfl

end Request

/-! ## Responses -/

namespace Rpc

/-- The object has an error that is read as these details. -/
def ReadsError (d : Dict Json) (details : ErrorDetails) : Prop :=
  ∃ v, d.find? "error" = some v ∧ ErrorDetails.decode v.toDoc = .ok details

end Rpc

namespace ResponsePayload

section Field

variable {α : Type} (name type : String) (decode : Json.Doc → Except Json.DecodeError α)

/-- How a decoder of one field reads a field. -/
def readField (s : Json.Slot α) (k : String) (d : Json.Doc) :
    Except Json.DecodeError (Json.Slot α) :=
  if k = name then s.fill name decode d else d.ignore.map fun _ => s

theorem decodeField_object (fields : List (String × Json.Doc)) :
    decodeField name type decode (.object fields .closed) =
      Json.foldFields (readField name decode) none fields >>= fun s => s.required name := rfl

theorem independent_readField : Json.Independent (readField name decode) := by
  intro s t k j d hread hne e
  unfold readField at hread ⊢
  split at hread
  · next hk =>
      rw [if_neg (hk ▸ hne), if_neg (hk ▸ hne), Json.isOk_map, Json.isOk_map]
  · obtain ⟨-, -, rfl⟩ := map_eq_ok hread
    rfl

/-- A decoder of one field gives what the field of its name is read as. -/
theorem decodeField_eq_ok (d : Dict Json) {a : α} :
    decodeField name type decode (.object (Json.toDocFields d.entries) .closed) = .ok a ↔
      ∃ v, d.find? name = some v ∧ decode v.toDoc = .ok a := by
  have hslot {s : Json.Slot α}
      (hs : Json.foldFields (readField name decode) none (Json.toDocFields d.entries) = .ok s) :=
    Json.slot_of_foldFields name (fun s : Json.Slot α => s) decode
      (fun hr => Json.Slot.fill_eq_ok (by rwa [readField, if_pos rfl] at hr))
      (fun hk hr => by
        rw [readField, if_neg hk] at hr
        obtain ⟨-, -, rfl⟩ := map_eq_ok hr
        rfl) hs
  rw [decodeField_object]
  constructor
  · intro h
    obtain ⟨s, hs, hrequired⟩ := bind_eq_ok h
    cases Json.Slot.required_eq_ok.1 hrequired
    rcases hslot hs with ⟨-, hnone⟩ | ⟨v, w, hfind, -, hw, hsome⟩
    · cases hnone
    · cases hsome
      exact ⟨v, hfind, hw⟩
  · rintro ⟨v, hfind, hv⟩
    have hread : (Json.foldFields (readField name decode) none
        (Json.toDocFields d.entries)).isOk = true := by
      refine (Json.isOk_foldFields (independent_readField name decode) none d.ascending).2 ?_
      intro k w hw
      unfold readField
      split
      · next hk =>
          subst hk
          cases hw.symm.trans hfind
          rw [Json.Slot.isOk_fill, hv]
          rfl
      · rw [Json.isOk_map, Json.ignore_toDoc]
        rfl
    obtain ⟨s, hs⟩ := Json.isOk_iff.1 hread
    rcases hslot hs with ⟨hnone, -⟩ | ⟨v', w, hfind', -, hw, hsome⟩
    · cases hfind.symm.trans hnone
    · cases hfind.symm.trans hfind'
      cases hv.symm.trans hw
      rw [hs]
      exact Json.Slot.required_eq_ok.2 hsome

end Field

variable (d : Dict Json)

/-- An error that can be read is the payload, whatever else there is. -/
theorem decode_of_readsError {details : ErrorDetails} (h : Rpc.ReadsError d details) :
    decode (.object (Json.toDocFields d.entries) .closed) = .ok (error details) := by
  have herror := (decodeField_eq_ok "error" "struct ErrorResponse" ErrorDetails.decode d).2 h
  unfold decode
  rw [Json.buffer_object_toDocFields, herror]
  rfl

/-- Without one the payload is the result. -/
theorem decode_of_result (h : ∀ details, ¬Rpc.ReadsError d details) {v w : Json}
    (hv : d.find? "result" = some v) (hw : v.toDoc.asJson = .ok w) :
    decode (.object (Json.toDocFields d.entries) .closed) = .ok (success w) := by
  have hresult :=
    (decodeField_eq_ok "result" "struct SuccessResponse" Json.Doc.asJson d).2 ⟨v, hv, hw⟩
  unfold decode
  rw [Json.buffer_object_toDocFields, hresult]
  cases herror : decodeField "error" "struct ErrorResponse" ErrorDetails.decode
      (.object (Json.toDocFields d.entries) .closed) with
  | ok details => exact absurd ((decodeField_eq_ok _ _ _ d).1 herror) (h details)
  | error e => rfl

/-- There are no other payloads. -/
theorem decode_isOk : (decode (.object (Json.toDocFields d.entries) .closed)).isOk = true ↔
    (∃ details, Rpc.ReadsError d details) ∨ ∃ v, d.find? "result" = some v := by
  constructor
  · intro h
    unfold decode at h
    rw [Json.buffer_object_toDocFields] at h
    cases herror : decodeField "error" "struct ErrorResponse" ErrorDetails.decode
        (.object (Json.toDocFields d.entries) .closed) with
    | ok details => exact .inl ⟨details, (decodeField_eq_ok _ _ _ d).1 herror⟩
    | error e =>
        cases hresult : decodeField "result" "struct SuccessResponse" Json.Doc.asJson
            (.object (Json.toDocFields d.entries) .closed) with
        | ok result =>
            obtain ⟨v, hv, -⟩ := (decodeField_eq_ok _ _ _ d).1 hresult
            exact .inr ⟨v, hv⟩
        | error e =>
            rw [herror, hresult] at h
            cases h
  · intro h
    by_cases herror : ∃ details, Rpc.ReadsError d details
    · obtain ⟨details, hdetails⟩ := herror
      rw [decode_of_readsError d hdetails]
      rfl
    · obtain ⟨v, hv⟩ := h.resolve_left herror
      obtain ⟨w, hw⟩ := Json.exists_asJson_toDoc v
      rw [decode_of_result d (not_exists.1 herror) hv hw]
      rfl

end ResponsePayload

namespace Response

/-- The objects that are read as responses, if as nothing else. -/
structure Fits (d : Dict Json) : Prop where
  /-- There is an id, which may be null. -/
  id : ∃ v, d.find? "id" = some v ∧ Rpc.IsId v
  /-- The version is that of the protocol, if there is one. -/
  marker : ∀ v, d.find? "jsonrpc" = some v → Rpc.IsMarker v
  /-- There is an error that can be read, or a result. -/
  payload : (∃ details, Rpc.ReadsError d details) ∨ ∃ v, d.find? "result" = some v

theorem Slots.isOk_read (s : Slots) (k : String) (d : Json.Doc) : (s.read k d).isOk =
    match k with
    | "jsonrpc" => s.marked.isNone && (Rpc.decodeMarked d).isOk
    | "id" => s.id.isNone && (Id.decode d).isOk
    | _ => d.buffer.isOk := by
  unfold read
  split
  all_goals simp only [Json.isOk_map, Json.Slot.isOk_fill]

/-- Reading one field fills the slot of its name, or is put off. -/
theorem Slots.read_eq_ok {s t : Slots} {k : String} {d : Json.Doc} (h : s.read k d = .ok t) :
    (k = "jsonrpc" ∧ ∃ v, t = { s with marked := some v }) ∨
    (k = "id" ∧ ∃ v, t = { s with id := some v }) ∨
    (k ≠ "jsonrpc" ∧ k ≠ "id" ∧ t = { s with payload := s.payload ++ [(k, d)] }) := by
  unfold read at h
  split at h
  · obtain ⟨-, w, -, rfl⟩ := Json.Slot.map_fill_eq_ok h
    exact .inl ⟨rfl, w, rfl⟩
  · obtain ⟨-, w, -, rfl⟩ := Json.Slot.map_fill_eq_ok h
    exact .inr (.inl ⟨rfl, w, rfl⟩)
  · next hmarked hid =>
      obtain ⟨-, -, rfl⟩ := map_eq_ok h
      exact .inr (.inr ⟨hmarked, hid, rfl⟩)

theorem Slots.independent_read : Json.Independent Slots.read := by
  intro s t k j d hread hne e
  rw [isOk_read, isOk_read]
  rcases read_eq_ok hread with ⟨rfl, v, rfl⟩ | ⟨rfl, v, rfl⟩ | ⟨-, -, rfl⟩
  · split <;> simp_all
  · split <;> simp_all
  · rfl

theorem Slots.isSome_id {s t : Slots} {k : String} {d : Json.Doc} (h : s.read k d = .ok t) :
    t.id.isSome = (decide (k = "id") || s.id.isSome) := by
  rcases read_eq_ok h with ⟨rfl, v, rfl⟩ | ⟨rfl, v, rfl⟩ | ⟨-, hne, rfl⟩
  · rfl
  · rfl
  · simp [hne]

/-- All fields but id and marker are kept for the payload. -/
theorem payload_of_foldFields {fields : List (String × Json)} {s t : Slots}
    (h : Json.foldFields Slots.read s (Json.toDocFields fields) = .ok t) :
    t.payload = s.payload ++
      Json.toDocFields (Entries.erase "id" (Entries.erase "jsonrpc" fields)) := by
  induction fields generalizing s with
  | nil =>
      cases h
      exact (List.append_nil _).symm
  | cons f fs ih =>
      obtain ⟨k, v⟩ := f
      simp only [Json.toDocFields, Json.foldFields] at h
      split at h
      · cases h
      · next b hb =>
          rw [ih h]
          rcases Slots.read_eq_ok hb with ⟨rfl, w, rfl⟩ | ⟨rfl, w, rfl⟩ | ⟨hmarked, hid, rfl⟩
          · simp [Entries.erase]
          · simp [Entries.erase]
          · simp [Entries.erase, hmarked, hid, Json.toDocFields]

/-- The payload is read from the object without id and marker. -/
theorem payload_eq {d : Dict Json} {t : Slots}
    (h : Json.foldFields Slots.read {} (Json.toDocFields d.entries) = .ok t) :
    t.payload = Json.toDocFields ((d.erase "jsonrpc").erase "id").entries := by
  rw [payload_of_foldFields h]
  rfl

theorem readsError_erase (d : Dict Json) (details : ErrorDetails) :
    Rpc.ReadsError ((d.erase "jsonrpc").erase "id") details ↔ Rpc.ReadsError d details := by
  simp [Rpc.ReadsError]

/-- Where a decoded response has its payload from. -/
theorem payload_of_decode {d : Dict Json} {r : Response}
    (h : decode (Json.ofDict d).toDoc = .ok r) : ResponsePayload.decode
      (.object (Json.toDocFields ((d.erase "jsonrpc").erase "id").entries) .closed) =
      .ok r.payload := by
  obtain ⟨s, hs, hrest⟩ := bind_eq_ok
    (show (Json.foldFields Slots.read {} (Json.toDocFields d.entries) >>= _) = _ from h)
  obtain ⟨-, -, hrest⟩ := bind_eq_ok hrest
  obtain ⟨id, -, hrest⟩ := bind_eq_ok hrest
  obtain ⟨payload, hpayload, hrest⟩ := bind_eq_ok hrest
  cases hrest
  rwa [payload_eq hs] at hpayload

theorem decode_isOk (d : Dict Json) : (decode (Json.ofDict d).toDoc).isOk = true ↔ Fits d := by
  have hrecord := Json.isOk_record Slots.independent_read Slots.isSome_id (s := {}) rfl
    (fun t id => do
      let payload ← ResponsePayload.decode (.object t.payload .closed)
      .ok (Response.mk (t.marked.getD false) id payload)) d
  simp only [Slots.isOk_read] at hrecord
  have hpayload : (∃ details, Rpc.ReadsError ((d.erase "jsonrpc").erase "id") details) ∨
      (∃ v, ((d.erase "jsonrpc").erase "id").find? "result" = some v) ↔
      (∃ details, Rpc.ReadsError d details) ∨ ∃ v, d.find? "result" = some v := by
    simp [readsError_erase]
  constructor
  · intro h
    obtain ⟨hall, ⟨v, hv⟩, -⟩ := hrecord.1 h
    obtain ⟨r, hr⟩ := Json.isOk_iff.1 h
    have hread := Json.isOk_iff.2 ⟨_, payload_of_decode hr⟩
    refine ⟨⟨v, hv, ?_⟩, ?_, hpayload.1 ((ResponsePayload.decode_isOk _).1 hread)⟩
    · exact (Id.decode_isOk v).1 (hall "id" v hv)
    · intro w hw
      exact (Rpc.decodeMarked_isOk w).1 (hall "jsonrpc" w hw)
  · rintro ⟨⟨v, hv, hid⟩, hmarker, hthere⟩
    refine hrecord.2 ⟨?_, ⟨v, hv⟩, ?_⟩
    · intro k w hw
      split
      · exact (Rpc.decodeMarked_isOk w).2 (hmarker w hw)
      · cases hv.symm.trans hw
        exact (Id.decode_isOk v).2 hid
      · rw [Json.buffer_toDoc]
        rfl
    · intro t id ht _
      obtain ⟨payload, hread⟩ :=
        Json.isOk_iff.1 ((ResponsePayload.decode_isOk _).2 (hpayload.2 hthere))
      rw [payload_eq ht, hread]
      rfl

end Response

/-! ## Messages -/

namespace RpcMessage

/-- The shapes are tried one after the other. -/
theorem ofJson?_cases (v : Json) :
    (∃ n, Notification.decode v.toDoc = .ok n ∧ ofJson? v = .ok (notification n)) ∨
    (Notification.decode v.toDoc).isOk = false ∧
      ((∃ r, Request.decode v.toDoc = .ok r ∧ ofJson? v = .ok (request r)) ∨
      (Request.decode v.toDoc).isOk = false ∧
        ((∃ r, Response.decode v.toDoc = .ok r ∧ ofJson? v = .ok (response r)) ∨
        (Response.decode v.toDoc).isOk = false ∧
          ofJson? v = .error (.noAlternative "JsonRpcMessage"))) := by
  unfold ofJson? decode
  rw [Json.buffer_toDoc]
  cases Notification.decode v.toDoc with
  | ok n => exact .inl ⟨n, rfl, rfl⟩
  | error e =>
      refine .inr ⟨rfl, ?_⟩
      cases Request.decode v.toDoc with
      | ok r => exact .inl ⟨r, rfl, rfl⟩
      | error e =>
          refine .inr ⟨rfl, ?_⟩
          cases Response.decode v.toDoc with
          | ok r => exact .inl ⟨r, rfl, rfl⟩
          | error e => exact .inr ⟨rfl, rfl⟩

/-- What becomes of an object that is read as a message. -/
structure Told (d : Dict Json) (read : Except Json.DecodeError RpcMessage) : Prop where
  /-- It is a notification if it can be one. -/
  notification : (∃ n, read = .ok (notification n)) ↔ Notification.Fits d
  /-- It is a request if it can be one, and no notification. -/
  request : (∃ r, read = .ok (request r)) ↔ ¬Notification.Fits d ∧ Request.Fits d
  /-- It is a response if it can be one, and nothing else. -/
  response : (∃ r, read = .ok (response r)) ↔
    ¬Notification.Fits d ∧ ¬Request.Fits d ∧ Response.Fits d
  /-- In all other cases it is refused. -/
  refused : (∃ e, read = .error e) ↔
    ¬Notification.Fits d ∧ ¬Request.Fits d ∧ ¬Response.Fits d
  /-- An error that can be read is the payload of a response, even beside a result. -/
  failure : ∀ r details, read = .ok (.response r) → Rpc.ReadsError d details →
    r.payload = .error details
  /-- Else its payload is the result, unchanged. -/
  success : ∀ r, read = .ok (.response r) → (∀ details, ¬Rpc.ReadsError d details) →
    ∃ v w, d.find? "result" = some v ∧ r.payload = .success w ∧ (v.Ordered → w = v)
  /-- With a method there is no response. -/
  method : ∀ s, d.find? "method" = some (.string s) → ∀ r, read ≠ .ok (.response r)
  /-- With an id, whatever it is, there is no notification. -/
  id : d.contains "id" = true → ∀ n, read ≠ .ok (.notification n)

/-- Which shape an object is read as. -/
theorem shape_iff (d : Dict Json) :
    ((∃ n, ofJson? (Json.ofDict d) = .ok (notification n)) ↔ Notification.Fits d) ∧
    ((∃ r, ofJson? (Json.ofDict d) = .ok (request r)) ↔
      ¬Notification.Fits d ∧ Request.Fits d) ∧
    ((∃ r, ofJson? (Json.ofDict d) = .ok (response r)) ↔
      ¬Notification.Fits d ∧ ¬Request.Fits d ∧ Response.Fits d) ∧
    ((∃ e, ofJson? (Json.ofDict d) = .error e) ↔
      ¬Notification.Fits d ∧ ¬Request.Fits d ∧ ¬Response.Fits d) := by
  rw [← Notification.decode_isOk, ← Request.decode_isOk, ← Response.decode_isOk]
  obtain ⟨n, hn, hread⟩ | ⟨hn, ⟨r, hr, hread⟩ | ⟨hr, ⟨r, hs, hread⟩ | ⟨hs, hread⟩⟩⟩ :=
    ofJson?_cases (Json.ofDict d)
  · simp [hread, Json.isOk_iff, hn]
  · simp [hread, hn, Json.isOk_iff, hr]
  · simp [hread, hn, hr, Json.isOk_iff, hs]
  · simp [hread, hn, hr, hs]

theorem decode_of_response {v : Json} {r : Response} (h : ofJson? v = .ok (response r)) :
    Response.decode v.toDoc = .ok r := by
  obtain ⟨n, -, hread⟩ | ⟨-, ⟨q, -, hread⟩ | ⟨-, ⟨q, hq, hread⟩ | ⟨-, hread⟩⟩⟩ := ofJson?_cases v
  all_goals cases h.symm.trans hread
  exact hq

/-- What comes of an object that is read as a message is settled by its fields. -/
theorem told (d : Dict Json) : Told d (ofJson? (Json.ofDict d)) := by
  obtain ⟨hnotification, hrequest, hresponse, hrefused⟩ := shape_iff d
  refine ⟨hnotification, hrequest, hresponse, hrefused, ?_, ?_, ?_, ?_⟩
  · intro r details hread herror
    have hpayload := Response.payload_of_decode (decode_of_response hread)
    rw [ResponsePayload.decode_of_readsError _ ((Response.readsError_erase d details).2 herror)]
      at hpayload
    exact (Except.ok.inj hpayload).symm
  · intro r hread hno
    obtain ⟨-, -, hfits⟩ := hresponse.1 ⟨r, hread⟩
    obtain ⟨v, hv⟩ := hfits.payload.resolve_left (not_exists.2 hno)
    obtain ⟨w, hw⟩ := Json.exists_asJson_toDoc v
    have hpayload := Response.payload_of_decode (decode_of_response hread)
    rw [ResponsePayload.decode_of_result _
      (fun details => mt (Response.readsError_erase d details).1 (hno details)) (by simpa using hv)
      hw] at hpayload
    refine ⟨v, w, hv, (Except.ok.inj hpayload).symm, ?_⟩
    intro hordered
    exact Except.ok.inj (hw.symm.trans (Json.asJson_toDoc hordered))
  · intro s hs r hread
    -- A response with a method would be a request, because its id and its marker are fine.
    obtain ⟨-, hno, ⟨v, hv, hid⟩, hmarker, -⟩ := hresponse.1 ⟨r, hread⟩
    refine hno ⟨⟨s, hs⟩, hmarker, ?_⟩
    intro w hw
    rwa [← Option.some.inj (hv.symm.trans hw)]
  · intro hcontains n hread
    obtain ⟨v, hv⟩ := Option.isSome_iff_exists.1 hcontains
    rcases (hnotification.1 ⟨n, hread⟩).known "id" v hv with heq | heq | heq
    all_goals exact absurd heq (by decide)

end RpcMessage

end Switchboard
