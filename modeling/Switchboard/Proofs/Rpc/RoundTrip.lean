/-
# Switchboard.Proofs.Rpc.RoundTrip -- what is left of a message that is written and read back

The three shapes share most of their fields, the shape is told from the fields alone, and absent
fields are not written. So writing loses something, and `RpcMessage.settled` says exactly what: a
request without an id is a notification, the id `null` is no id, parameters and error data that
are `null` are absent, and of an error code only the number is left (`ErrorCode.asRead`).

Every record is written as an object whose keys ascend (`toJson_eq`). The proof for a shape goes
through these fields from the left and says what the slots of its decoder hold; that the decoders
which are tried before do not take the object is read off one field: an `id`, which a
notification must not have, or a `method`, which a request must have.
-/

import Switchboard.Proofs.Json.Documents
import Switchboard.Proofs.Rpc.Decoding

namespace Switchboard

/-! ## Fields that may be absent -/

namespace Rpc

/-- What is read back of an optional value: a null that is there is absent. -/
def present (v : Option Json) : Option Json := if v = some .null then none else v

/-- What is read back of an optional id: the id `null` is none. -/
def presentId (id : Option Id) : Option Id := if id = some .null then none else id

theorem decodeParams_toDoc {v : Json} (h : v.Ordered) :
    decodeParams v.toDoc = .ok (present (some v)) := by
  by_cases hv : v = .null
  · subst hv
    rfl
  · unfold decodeParams
    rw [Json.asOption_toDoc _ hv, Json.asJson_toDoc h]
    simp [present, hv, Except.map]

/-- The slot of parameters after parameters were read, if they are there. -/
def paramsSlot (params : Option Json) : Json.Slot (Option Json) :=
  params.map fun v => present (some v)

/-- The slot of the marker after a marker was read, if it is there. -/
def markedSlot (marked : Bool) : Json.Slot Bool := if marked then some true else none

section Fields

variable {σ : Type} (step : σ → String → Json.Doc → Except Json.DecodeError σ)

/-- An optional field fills its slot if it is there and can be decoded; `put` puts the slot among
the others. -/
theorem foldFields_optionalField {α : Type} (put : Json.Slot α → σ)
    {decode : Json.Doc → Except Json.DecodeError α} {name : String} {v : Option Json}
    (slot : Json.Slot α) (hread : ∀ d, step (put none) name d = ((decode d).map some).map put)
    (hnone : v = none → slot = none)
    (hsome : ∀ w, v = some w → ∃ a, decode w.toDoc = .ok a ∧ slot = some a) :
    Json.foldFields step (put none) (Json.toDocFields (optionalField name v)) =
      .ok (put slot) := by
  cases v with
  | none =>
      rw [hnone rfl]
      rfl
  | some w =>
      obtain ⟨a, ha, hslot⟩ := hsome w rfl
      apply Json.foldFields_cons_of_ok
      rw [hread, ha, hslot]
      rfl

theorem foldFields_markerField (put : Json.Slot Bool → σ) (marked : Bool)
    (hread : ∀ d, step (put none) "jsonrpc" d = ((decodeMarked d).map some).map put) :
    Json.foldFields step (put none) (Json.toDocFields (markerField marked)) =
      .ok (put (markedSlot marked)) := by
  cases marked with
  | false => rfl
  | true =>
      apply Json.foldFields_cons_of_ok
      rw [hread]
      rfl

theorem foldFields_paramsField (put : Json.Slot (Option Json) → σ) (name : String)
    {params : Option Json} (h : ∀ v ∈ params, v.Ordered)
    (hread : ∀ d, step (put none) name d = ((decodeParams d).map some).map put) :
    Json.foldFields step (put none) (Json.toDocFields (optionalField name params)) =
      .ok (put (paramsSlot params)) := by
  apply foldFields_optionalField step put (paramsSlot params) hread
  · intro hnone
    rw [hnone]
    rfl
  · intro v hv
    exact ⟨_, decodeParams_toDoc (h v hv), by rw [hv]; rfl⟩

end Fields

end Rpc

namespace Id

theorem decode_toDoc (id : Id) : decode id.toJson.toDoc = .ok id := by
  cases id with
  | null => rfl
  | number n =>
      show decode (Json.integer n.toInt).toDoc = _
      rw [decode_integer, ofInt?_toInt]
      rfl
  | text s => rfl

theorem toJson_eq_null_iff (id : Id) : id.toJson = .null ↔ id = .null := by
  cases id <;> simp [toJson]

end Id

theorem Rpc.decodeOptionalId_toDoc (id : Id) :
    decodeOptionalId id.toJson.toDoc = .ok (presentId (some id)) := by
  by_cases hid : id = .null
  · subst hid
    rfl
  · unfold decodeOptionalId
    rw [Json.asOption_toDoc _ (mt (Id.toJson_eq_null_iff id).1 hid), Id.decode_toDoc]
    simp [presentId, hid, Except.map]

/-! ## Calls in ascending order -/

/-- The fields of a request in ascending order: its id comes first, and the rest is written like a
notification. -/
theorem Request.toJson_eq (r : Request) : r.toJson = .object
    (Rpc.optionalField "id" (r.id.map Id.toJson) ++
      Notification.fields ⟨r.marked, r.method, r.params⟩) := by
  obtain ⟨marked, id, method, params⟩ := r
  cases marked <;> cases id <;> cases params <;>
    simp only [toJson, fields, Notification.fields, Json.ofFields, Entries.ofList, Entries.insert,
      Rpc.optionalField, Rpc.markerField, Option.map_none, Option.map_some, Option.toList_none,
      Option.toList_some, List.foldl_cons, List.foldl_nil, List.nil_append, List.cons_append,
      List.append_nil, Bool.false_eq_true, ↓reduceIte, String.reduceLT, String.reduceEq]

/-! ## Notifications -/

namespace Notification

/-- What is read back of a notification. -/
def settled (n : Notification) : Notification := { n with params := Rpc.present n.params }

/-- The fields of a notification ascend in the order in which they are declared. -/
theorem toJson_eq (n : Notification) : n.toJson = .object n.fields := by
  have hsame : n.toJson = Request.toJson ⟨n.marked, none, n.method, n.params⟩ := by
    simp [toJson, fields, Request.toJson, Request.fields, Rpc.optionalField]
  rw [hsame, Request.toJson_eq]
  rfl

/-- A decoder of calls reads marker, method and parameters into their slots; `put` puts these
among the others. -/
theorem foldFields_fields {σ : Type} (step : σ → String → Json.Doc → Except Json.DecodeError σ)
    (put : Json.Slot Bool → Json.Slot String → Json.Slot (Option Json) → σ) (n : Notification)
    (h : ∀ v ∈ n.params, v.Ordered)
    (hmarked : ∀ d, step (put none none none) "jsonrpc" d =
      ((Rpc.decodeMarked d).map some).map fun v => put v none none)
    (hmethod : ∀ marked d, step (put marked none none) "method" d =
      ((Rpc.decodeMethod d).map some).map fun v => put marked v none)
    (hparams : ∀ marked method d, step (put marked method none) "params" d =
      ((Rpc.decodeParams d).map some).map fun v => put marked method v) :
    Json.foldFields step (put none none none) (Json.toDocFields n.fields) =
      .ok (put (Rpc.markedSlot n.marked) (some n.method) (Rpc.paramsSlot n.params)) := by
  have hfirst := Rpc.foldFields_markerField step (put · none none) n.marked hmarked
  have hsecond : step (put (Rpc.markedSlot n.marked) none none) "method"
      (Json.string n.method).toDoc = .ok (put (Rpc.markedSlot n.marked) (some n.method) none) :=
    hmethod _ _
  unfold fields
  rw [List.append_assoc, Json.foldFields_append hfirst]
  exact (Json.foldFields_cons_of_ok hsecond _).trans
    (Rpc.foldFields_paramsField step (put _ _) "params" h (hparams _ _))

theorem decode_toJson (n : Notification) (h : ∀ v ∈ n.params, v.Ordered) :
    decode n.toJson.toDoc = .ok n.settled := by
  have hslots :=
    foldFields_fields Slots.read Slots.mk n h (fun _ => rfl) (fun _ _ => rfl) (fun _ _ _ => rfl)
  rw [toJson_eq]
  show (Json.foldFields Slots.read ⟨none, none, none⟩ (Json.toDocFields n.fields) >>= _) = _
  rw [hslots]
  obtain ⟨marked, method, params⟩ := n
  cases marked <;> cases params <;> rfl

/-- A notification has no id. -/
theorem decode_of_id {fields : List (String × Json)} {v : Json} (h : ("id", v) ∈ fields)
    (n : Notification) : decode (Json.object fields).toDoc ≠ .ok n := by
  intro hok
  obtain ⟨s, hs, -⟩ := bind_eq_ok
    (show (Json.foldFields Slots.read {} (Json.toDocFields fields) >>= _) = _ from hok)
  obtain ⟨s', t', hstep⟩ := Json.step_of_foldFields hs h
  cases hstep

end Notification

/-! ## Requests -/

namespace Request

/-- What is read back of a request that is read as one. -/
def settled (r : Request) : Request :=
  { r with id := Rpc.presentId r.id, params := Rpc.present r.params }

/-- The slot of the id after an id was read, if it is there. -/
def idSlot (id : Option Id) : Json.Slot (Option Id) := id.map fun id => Rpc.presentId (some id)

theorem decode_toJson (r : Request) (h : ∀ v ∈ r.params, v.Ordered) :
    decode r.toJson.toDoc = .ok r.settled := by
  have hid : Json.foldFields Slots.read ⟨none, none, none, none⟩
      (Json.toDocFields (Rpc.optionalField "id" (r.id.map Id.toJson))) =
      .ok ⟨none, idSlot r.id, none, none⟩ := by
    apply Rpc.foldFields_optionalField Slots.read (Slots.mk none · none none) _ fun _ => rfl
    · intro hnone
      rw [Option.map_eq_none_iff.1 hnone]
      rfl
    · intro v hv
      obtain ⟨id, hid, rfl⟩ := Option.map_eq_some_iff.1 hv
      exact ⟨_, Rpc.decodeOptionalId_toDoc id, by rw [hid]; rfl⟩
  have hrest := Notification.foldFields_fields Slots.read
    (fun marked method params => Slots.mk marked (idSlot r.id) method params)
    ⟨r.marked, r.method, r.params⟩ h (fun _ => rfl) (fun _ _ => rfl) (fun _ _ _ => rfl)
  rw [toJson_eq]
  show (Json.foldFields Slots.read ⟨none, none, none, none⟩ (Json.toDocFields _) >>= _) = _
  rw [Json.foldFields_append hid, hrest]
  obtain ⟨marked, id, method, params⟩ := r
  cases marked <;> cases id <;> cases params <;> rfl

/-- A request has a method. -/
theorem decode_of_no_method {fields : List (String × Json)}
    (h : Entries.find? "method" fields = none) (r : Request) :
    decode (Json.object fields).toDoc ≠ .ok r := by
  intro hok
  have hmethod := (decode_ok hok).1
  rw [h] at hmethod
  cases hmethod

end Request

/-! ## Error details -/

namespace ErrorCode

/-- The codes that are recognised by their numbers. -/
def recognised : List ErrorCode :=
  [parseError, oversizedRequest, invalidRequest, methodNotFound, invalidParams, internalError]

/-- What is read back of a code. The number of `serverIsBusy` is not among those recognised. -/
def asRead : ErrorCode → ErrorCode
  | serverError n => (recognised.find? (·.code = n)).getD (serverError n)
  | serverIsBusy => serverError (-32009)
  | c => c

/-- What would be read back if the number of `serverIsBusy` were recognised like the others. -/
def asNamed : ErrorCode → ErrorCode
  | serverError n => ((serverIsBusy :: recognised).find? (·.code = n)).getD (serverError n)
  | c => c

theorem ofCode_eq (n : Int32) :
    ofCode n = (recognised.find? (·.code = n)).getD (serverError n) := by
  unfold ofCode recognised
  simp only [List.find?_cons, List.find?_nil, code, eq_comm (b := n)]
  grind

theorem ofCode_code (c : ErrorCode) : ofCode c.code = c.asRead := by
  cases c with
  | serverError n => exact ofCode_eq n
  | _ => rfl

theorem decode_toDoc (c : ErrorCode) :
    decode (Json.integer c.code.toInt).toDoc = .ok c.asRead := by
  have hread : (Json.integer c.code.toInt).toDoc.asInteger Int32.minValue.toInt
      Int32.maxValue.toInt "i32" = .ok c.code.toInt := by
    show (if (decide _ && decide _) = true then _ else _) = _
    rw [decide_eq_true c.code.minValue_le_toInt, decide_eq_true c.code.toInt_le]
    rfl
  unfold decode
  rw [hread]
  show Except.ok (ofCode (Int32.ofInt c.code.toInt)) = _
  rw [Int32.ofInt_toInt, ofCode_code]

end ErrorCode

namespace ErrorDetails

/-- Error details with another code, and without data that are null. -/
def settled (code : ErrorCode → ErrorCode) (e : ErrorDetails) : ErrorDetails :=
  { e with code := code e.code, data := Rpc.present e.data }

theorem toJson_eq (e : ErrorDetails) : e.toJson = .object
    ([("code", .integer e.code.code.toInt)] ++ Rpc.optionalField "data" e.data ++
      [("message", .string e.message)]) := by
  obtain ⟨code, message, data⟩ := e
  cases data <;>
    simp only [toJson, fields, Json.ofFields, Entries.ofList, Entries.insert, Rpc.optionalField,
      Option.map_none, Option.map_some, Option.toList_none, Option.toList_some, List.foldl_cons,
      List.foldl_nil, List.nil_append, List.cons_append, List.append_nil, ↓reduceIte,
      String.reduceLT, String.reduceEq]

theorem decode_toJson (e : ErrorDetails) (h : ∀ v ∈ e.data, v.Ordered) :
    decode e.toJson.toDoc = .ok (e.settled .asRead) := by
  have hcode : Json.foldFields Slots.read {}
      (Json.toDocFields [("code", .integer e.code.code.toInt)]) =
      .ok ⟨some e.code.asRead, none, none⟩ := by
    apply Json.foldFields_cons_of_ok
    show (((ErrorCode.decode (Json.integer e.code.code.toInt).toDoc).map some).map _) = _
    rw [ErrorCode.decode_toDoc]
    rfl
  have hdata := Rpc.foldFields_paramsField Slots.read (Slots.mk (some e.code.asRead) none) "data" h
    fun _ => rfl
  rw [toJson_eq]
  show (Json.foldFields Slots.read {} (Json.toDocFields _) >>= _) = _
  rw [List.append_assoc, Json.foldFields_append hcode, Json.foldFields_append hdata]
  obtain ⟨code, message, data⟩ := e
  cases data <;> rfl

end ErrorDetails

/-! ## Responses -/

namespace ResponsePayload

/-- The values that a payload carries as they are. -/
def values : ResponsePayload → List Json
  | error details => details.data.toList
  | success result => [result]

/-- What is read back of a payload. -/
def settled (code : ErrorCode → ErrorCode) : ResponsePayload → ResponsePayload
  | error details => error (details.settled code)
  | success result => success result

/-- The one field of a payload as it comes to its decoder. -/
def doc (p : ResponsePayload) : Json.Doc :=
  .object (Json.toDocFields (p.fieldsWith Json.ofFields)) .closed

/-- A decoder of one field reads the field of its name. -/
theorem decodeField_same {α : Type} {name type : String}
    {decode : Json.Doc → Except Json.DecodeError α} {d : Json.Doc} {a : α}
    (h : decode d = .ok a) : decodeField name type decode (.object [(name, d)] .closed) = .ok a := by
  unfold decodeField
  simp only [Json.foldFields, Json.Slot.fill, if_pos, h]
  rfl

/-- It takes no object with another field only. -/
theorem decodeField_other {α : Type} {name type k : String}
    {decode : Json.Doc → Except Json.DecodeError α} {d : Json.Doc} (hk : k ≠ name) :
    ∃ e, decodeField name type decode (.object [(k, d)] .closed) = .error e := by
  unfold decodeField
  simp only [Json.foldFields, if_neg hk]
  cases d.ignore with
  | error e => exact ⟨e, rfl⟩
  | ok _ => exact ⟨.missingField name, rfl⟩

theorem decode_doc (p : ResponsePayload) (h : ∀ v ∈ p.values, v.Ordered) :
    decode p.doc = .ok (p.settled .asRead) := by
  cases p with
  | error details =>
      have hdata : ∀ v ∈ details.data, v.Ordered := fun v hv => h v (Option.mem_toList.2 hv)
      have herror : decodeField "error" "struct ErrorResponse" ErrorDetails.decode
          (error details).doc = .ok (details.settled .asRead) :=
        decodeField_same (details.decode_toJson hdata)
      have hbuffer : (error details).doc.buffer = .ok () :=
        Json.buffer_object_toDocFields [("error", details.toJson)]
      unfold decode
      rw [hbuffer, herror]
      rfl
  | success result =>
      have hordered : result.Ordered := h result (List.mem_singleton.2 rfl)
      obtain ⟨e, herror⟩ : ∃ e, decodeField "error" "struct ErrorResponse" ErrorDetails.decode
          (success result).doc = .error e := decodeField_other (by decide)
      have hresult : decodeField "result" "struct SuccessResponse" Json.Doc.asJson
          (success result).doc = .ok result := decodeField_same (Json.asJson_toDoc hordered)
      have hbuffer : (success result).doc.buffer = .ok () :=
        Json.buffer_object_toDocFields [("result", result)]
      unfold decode
      rw [hbuffer, herror, hresult]
      rfl

end ResponsePayload

namespace Response

/-- What is read back of a response. -/
def settled (code : ErrorCode → ErrorCode) (r : Response) : Response :=
  { r with payload := r.payload.settled code }

/-- Id and marker are read in whatever payload there is before them. -/
theorem foldFields_head (r : Response) (payload : List (String × Json.Doc)) :
    Json.foldFields Slots.read { payload }
      (Json.toDocFields ([("id", r.id.toJson)] ++ Rpc.markerField r.marked)) =
      .ok { marked := Rpc.markedSlot r.marked, id := some r.id, payload } := by
  have hid : Json.foldFields Slots.read { payload } (Json.toDocFields [("id", r.id.toJson)]) =
      .ok { id := some r.id, payload } := by
    apply Json.foldFields_cons_of_ok
    show (((Id.decode r.id.toJson.toDoc).map some).map _) = _
    rw [Id.decode_toDoc]
    rfl
  rw [Json.foldFields_append hid]
  exact Rpc.foldFields_markerField Slots.read (Slots.mk · (some r.id) payload) r.marked
    fun _ => rfl

/-- The fields of a response in ascending order: an error comes first and a result last. -/
theorem toJson_eq (r : Response) : r.toJson = .object
    (match r.payload with
      | .error details => ("error", details.toJson) ::
          ([("id", r.id.toJson)] ++ Rpc.markerField r.marked)
      | .success result => [("id", r.id.toJson)] ++ Rpc.markerField r.marked ++
          [("result", result)]) := by
  obtain ⟨marked, id, payload⟩ := r
  cases marked <;> cases payload <;>
    simp only [toJson, fieldsWith, ResponsePayload.fieldsWith, Json.ofFields, Entries.ofList,
      Entries.insert, Rpc.markerField, ErrorDetails.toJson, List.foldl_cons, List.foldl_nil,
      List.nil_append, List.cons_append, Bool.false_eq_true, ↓reduceIte, String.reduceLT,
      String.reduceEq]

theorem decode_toJson (r : Response) (h : ∀ v ∈ r.payload.values, v.Ordered) :
    decode r.toJson.toDoc = .ok (r.settled .asRead) := by
  obtain ⟨fields, hfields, hslots⟩ : ∃ fields, r.toJson = .object fields ∧
      Json.foldFields Slots.read {} (Json.toDocFields fields) = .ok
        { marked := Rpc.markedSlot r.marked
          id := some r.id
          payload := Json.toDocFields (r.payload.fieldsWith Json.ofFields) } := by
    refine ⟨_, r.toJson_eq, ?_⟩
    cases r.payload with
    | error details =>
        have herror : Slots.read {} "error" details.toJson.toDoc =
            .ok { payload := [("error", details.toJson.toDoc)] } := by
          show (details.toJson.toDoc.buffer.map fun _ => _) = _
          rw [Json.buffer_toDoc]
          rfl
        exact (Json.foldFields_cons_of_ok herror _).trans (r.foldFields_head _)
    | success result =>
        show Json.foldFields Slots.read {} (Json.toDocFields (_ ++ [("result", result)])) = _
        rw [Json.foldFields_append (r.foldFields_head [])]
        apply Json.foldFields_cons_of_ok
        show (result.toDoc.buffer.map fun _ => _) = _
        rw [Json.buffer_toDoc]
        rfl
  rw [hfields]
  show (Json.foldFields Slots.read {} (Json.toDocFields fields) >>= _) = _
  rw [hslots]
  show (ResponsePayload.decode r.payload.doc >>= _) = _
  rw [r.payload.decode_doc h]
  obtain ⟨marked, id, payload⟩ := r
  cases marked <;> rfl

/-- A response is neither read as a notification nor as a request. -/
theorem not_call (r : Response) :
    (∀ n, Notification.decode r.toJson.toDoc ≠ .ok n) ∧
    (∀ q, Request.decode r.toJson.toDoc ≠ .ok q) := by
  rw [toJson_eq]
  constructor
  · apply Notification.decode_of_id (v := r.id.toJson)
    cases r.payload with
    | error details => exact List.mem_cons_of_mem _ List.mem_cons_self
    | success result => exact List.mem_cons_self
  · apply Request.decode_of_no_method
    cases r.payload <;> cases r.marked <;> rfl

end Response

/-! ## Messages -/

namespace RpcMessage

/-- The values that a message carries as they are. -/
def values : RpcMessage → List Json
  | notification n => n.params.toList
  | request r => r.params.toList
  | response r => r.payload.values

/-- What is left of a message that is written and read back, if `code` is left of a code. -/
def settled (code : ErrorCode → ErrorCode) : RpcMessage → RpcMessage
  | notification n => notification n.settled
  | request r =>
    match r.id with
    | none => notification (Notification.settled ⟨r.marked, r.method, r.params⟩)
    | some _ => request r.settled
  | response r => response (r.settled code)

/-- What in any case is left of a message. -/
structure Keeps (m m' : RpcMessage) : Prop where
  /-- A notification stays one, of the same method. -/
  notification : ∀ n, m = .notification n →
    ∃ params, m' = .notification { n with params }
  /-- A request with an id other than null stays one, with the same id and method. -/
  request : ∀ r id, m = .request r → r.id = some id → id ≠ .null →
    ∃ params, m' = .request { r with params }
  /-- A successful response stays as it is, also if the result is null. -/
  success : ∀ r result, m = .response r → r.payload = .success result → m' = m
  /-- A failed response stays one, with the same id and message. -/
  error : ∀ r details, m = .response r → r.payload = .error details →
    ∃ code data, m' = .response { r with payload := .error { details with code, data } }

theorem keeps_settled (code : ErrorCode → ErrorCode) (m : RpcMessage) :
    m.Keeps (m.settled code) where
  notification := by
    rintro n rfl
    exact ⟨_, rfl⟩
  request := by
    rintro r id rfl hid hnull
    refine ⟨Rpc.present r.params, ?_⟩
    have hkept : Rpc.presentId r.id = r.id := if_neg (by simpa [hid] using hnull)
    simp only [settled, hid, Request.settled]
    rw [← hid, hkept]
  success := by
    rintro ⟨marked, id, payload⟩ result rfl rfl
    rfl
  error := by
    rintro ⟨marked, id, payload⟩ details rfl rfl
    exact ⟨_, _, rfl⟩

section Shapes

variable {v : Json}

theorem ofJson?_of_notification {n : Notification} (h : Notification.decode v.toDoc = .ok n) :
    ofJson? v = .ok (notification n) := by
  unfold ofJson? decode
  rw [Json.buffer_toDoc, h]
  rfl

theorem ofJson?_of_request {r : Request} (hn : ∀ n, Notification.decode v.toDoc ≠ .ok n)
    (h : Request.decode v.toDoc = .ok r) : ofJson? v = .ok (request r) := by
  unfold ofJson? decode
  rw [Json.buffer_toDoc, h]
  cases hd : Notification.decode v.toDoc with
  | ok n => exact absurd hd (hn n)
  | error e => rfl

theorem ofJson?_of_response {r : Response} (hn : ∀ n, Notification.decode v.toDoc ≠ .ok n)
    (hr : ∀ q, Request.decode v.toDoc ≠ .ok q) (h : Response.decode v.toDoc = .ok r) :
    ofJson? v = .ok (response r) := by
  unfold ofJson? decode
  rw [Json.buffer_toDoc, h]
  cases hd : Notification.decode v.toDoc with
  | ok n => exact absurd hd (hn n)
  | error e =>
      cases hq : Request.decode v.toDoc with
      | ok q => exact absurd hq (hr q)
      | error e => rfl

end Shapes

/-- A message that is written and read back is the same up to what `settled` says. In particular
its shape is told from its fields, and neither ids nor results change. -/
theorem ofJson?_toJson_settled (m : RpcMessage) (h : ∀ v ∈ m.values, v.Ordered) :
    ofJson? m.toJson = .ok (m.settled .asRead) ∧ m.Keeps (m.settled .asRead) := by
  refine ⟨?_, keeps_settled _ m⟩
  cases m with
  | notification n =>
      apply ofJson?_of_notification
      exact n.decode_toJson fun v hv => h v (Option.mem_toList.2 hv)
  | request r =>
      have hparams : ∀ v ∈ r.params, v.Ordered := fun v hv => h v (Option.mem_toList.2 hv)
      cases hid : r.id with
      | none =>
          -- Without an id nothing tells the request from a notification.
          have hsame : r.toJson = Notification.toJson ⟨r.marked, r.method, r.params⟩ := by
            rw [r.toJson_eq, Notification.toJson_eq, hid]
            rfl
          have hsettled : (request r).settled .asRead =
              notification (Notification.settled ⟨r.marked, r.method, r.params⟩) := by
            simp only [settled, hid]
          show ofJson? r.toJson = _
          rw [hsettled, hsame]
          exact ofJson?_of_notification (Notification.decode_toJson _ hparams)
      | some id =>
          have hsettled : (request r).settled .asRead = request r.settled := by
            simp only [settled, hid]
          have hno : ∀ n, Notification.decode r.toJson.toDoc ≠ .ok n := by
            rw [r.toJson_eq, hid]
            exact Notification.decode_of_id List.mem_cons_self
          rw [hsettled]
          exact ofJson?_of_request hno (r.decode_toJson hparams)
  | response r => exact ofJson?_of_response r.not_call.1 r.not_call.2 (r.decode_toJson h)

/-- A code of the server's own with a reserved number gets its name, and null data are gone. -/
theorem ofJson?_toJson_reserved :
    let m := response (.error (.text "a") ⟨.serverError (-32601), "gone", some .null⟩)
    (∀ v ∈ m.values, v.Ordered) ∧
      ofJson? m.toJson = .ok (response (.error (.text "a") ⟨.methodNotFound, "gone", none⟩)) := by
  intro m
  have hordered : ∀ v ∈ m.values, v.Ordered := by
    intro v hv
    rw [List.mem_singleton.1 hv]
    trivial
  exact ⟨hordered, (ofJson?_toJson_settled m hordered).1⟩

/-- The answer of a server that is busy. -/
def busy : RpcMessage := response (.error (.number 1) ⟨.serverIsBusy, "busy", none⟩)

/-- The number of `serverIsBusy` is not recognised, so this answer does not come back as it is. -/
theorem ofJson?_toJson_busy :
    busy.settled .asNamed = busy ∧
    ofJson? busy.toJson =
      .ok (response (.error (.number 1) ⟨.serverError (-32009), "busy", none⟩)) ∧
    ofJson? busy.toJson ≠ .ok (busy.settled .asNamed) := by
  have hread : ofJson? busy.toJson =
      .ok (response (.error (.number 1) ⟨.serverError (-32009), "busy", none⟩)) := by
    let r : Response := .error (.number 1) ⟨.serverIsBusy, "busy", none⟩
    exact ofJson?_of_response r.not_call.1 r.not_call.2 (r.decode_toJson nofun)
  refine ⟨rfl, hread, ?_⟩
  rw [hread]
  decide

end RpcMessage

end Switchboard
