/-
# Switchboard.Proofs.Rpc.Decoding -- what a decoded request has in common with its payload

A record is decoded field by field, so what ends up in a slot is settled by one field of the
object (`slot_of_foldFields`), or by none. `Request.decode_ok` puts this together for requests: id,
marker and method of a decoded request are those of the object, and a null id or marker counts as
none. In the other direction `Response.get?_toJson` says what the fields of a written response
are.
-/

import Switchboard.Proofs.Json.Documents
import Switchboard.Rpc.Message

namespace Switchboard

/-- Where a changed result comes from. -/
theorem map_eq_ok {ε α β : Type} {f : α → β} {x : Except ε α} {b : β} (h : x.map f = .ok b) :
    ∃ a, x = .ok a ∧ f a = b := by
  cases x with
  | error e => cases h
  | ok a =>
      cases h
      exact ⟨a, rfl, rfl⟩

/-- Where the result of two steps comes from. -/
theorem bind_eq_ok {ε α β : Type} {f : α → Except ε β} {x : Except ε α} {b : β}
    (h : x >>= f = .ok b) : ∃ a, x = .ok a ∧ f a = .ok b := by
  cases x with
  | error e => cases h
  | ok a => exact ⟨a, rfl, h⟩

namespace Json

/-! ## Slots -/

theorem Slot.fill_eq_ok {α : Type} {slot t : Slot α} {name : String}
    {decode : Doc → Except DecodeError α} {d : Doc} (h : slot.fill name decode d = .ok t) :
    slot = none ∧ ∃ v, decode d = .ok v ∧ t = some v := by
  cases slot with
  | some v => cases h
  | none =>
      obtain ⟨v, hv, rfl⟩ := map_eq_ok (show (decode d).map some = .ok t from h)
      exact ⟨rfl, v, hv, rfl⟩

/-- A record in which one slot was filled holds what the field was decoded to. -/
theorem Slot.map_fill_eq_ok {α β : Type} {slot : Slot α} {name : String}
    {decode : Doc → Except DecodeError α} {d : Doc} {f : Slot α → β} {b : β}
    (h : (slot.fill name decode d).map f = .ok b) :
    slot = none ∧ ∃ v, decode d = .ok v ∧ f (some v) = b := by
  obtain ⟨t, ht, rfl⟩ := map_eq_ok h
  obtain ⟨hnone, v, hv, rfl⟩ := fill_eq_ok ht
  exact ⟨hnone, v, hv, rfl⟩

/-- A slot that only the field `name` fills, and only once, holds the decoded field afterwards. -/
theorem slot_of_foldDocs {σ α : Type} {step : σ → String → Doc → Except DecodeError σ}
    (name : String) (slot : σ → Slot α) (decode : Doc → Except DecodeError α)
    (hsame : ∀ {s t : σ} {d : Doc}, step s name d = .ok t →
      slot s = none ∧ ∃ v, decode d = .ok v ∧ slot t = some v)
    (hother : ∀ {s t : σ} {k : String} {d : Doc}, k ≠ name → step s k d = .ok t →
      slot t = slot s)
    {fields : List (String × Doc)} {s t : σ} (h : foldFields step s fields = .ok t) :
    (Entries.find? name fields = none ∧ slot t = slot s) ∨
      ∃ d w, Entries.find? name fields = some d ∧ slot s = none ∧ decode d = .ok w ∧
        slot t = some w := by
  induction fields generalizing s with
  | nil =>
      cases h
      exact .inl ⟨rfl, rfl⟩
  | cons f fs ih =>
      obtain ⟨k, d⟩ := f
      simp only [foldFields] at h
      split at h
      · cases h
      · next b hb =>
          -- The first field of the name fills the slot; the others leave it alone.
          by_cases hk : name = k
          · subst hk
            obtain ⟨hnone, w, hw, hslot⟩ := hsame hb
            rcases ih h with ⟨_, hrest⟩ | ⟨_, _, _, hfull, _⟩
            · exact .inr ⟨d, w, by simp [Entries.find?], hnone, hw, hrest.trans hslot⟩
            · -- A second field of the name would have found the slot full.
              rw [hslot] at hfull
              cases hfull
          · have hkeep := hother (Ne.symm hk) hb
            have hfind : Entries.find? name ((k, d) :: fs) = Entries.find? name fs := by
              simp [Entries.find?, hk]
            rw [hfind, ← hkeep]
            exact ih h

/-- So does it after the fields of a value. -/
theorem slot_of_foldFields {σ α : Type} {step : σ → String → Doc → Except DecodeError σ}
    (name : String) (slot : σ → Slot α) (decode : Doc → Except DecodeError α)
    (hsame : ∀ {s t : σ} {d : Doc}, step s name d = .ok t →
      slot s = none ∧ ∃ v, decode d = .ok v ∧ slot t = some v)
    (hother : ∀ {s t : σ} {k : String} {d : Doc}, k ≠ name → step s k d = .ok t →
      slot t = slot s)
    {fields : List (String × Json)} {s t : σ} (h : foldFields step s (toDocFields fields) = .ok t) :
    (Entries.find? name fields = none ∧ slot t = slot s) ∨
      ∃ v w, Entries.find? name fields = some v ∧ slot s = none ∧ decode v.toDoc = .ok w ∧
        slot t = some w := by
  rcases slot_of_foldDocs name slot decode hsame hother h with
    ⟨hfind, hslot⟩ | ⟨d, w, hfind, hnone, hw, hslot⟩
  · rw [find?_toDocFields, Option.map_eq_none_iff] at hfind
    exact .inl ⟨hfind, hslot⟩
  · rw [find?_toDocFields] at hfind
    obtain ⟨v, hv, rfl⟩ := Option.map_eq_some_iff.1 hfind
    exact .inr ⟨v, w, hv, hnone, hw, hslot⟩

end Json

/-! ## Requests -/

namespace Id

/-- An integer that is an id is its own JSON value. -/
theorem toJson_of_ofInt? {n : Int} {id : Id} (h : ofInt? n = some id) : id.toJson = .integer n := by
  unfold ofInt? at h
  split at h
  · next hn =>
      cases h
      show Json.integer (Int64.ofInt n).toInt = .integer n
      rw [Int64.toInt_ofInt_of_le hn.1 (Int.lt_add_one_of_le hn.2)]
  · cases h

theorem decode_integer (n : Int) :
    decode (Json.integer n).toDoc = (ofInt? n).elim (.error (.noAlternative "Id")) .ok := by
  simp only [decode, Json.toDoc]
  cases ofInt? n <;> rfl

/-- An id that is read is the value itself. -/
theorem toJson_of_decode {v : Json} {id : Id} (h : decode v.toDoc = .ok id) : id.toJson = v := by
  obtain ⟨_, _, hid⟩ := bind_eq_ok h
  -- Nothing but null, integers in range and strings is an id.
  cases v with
  | null =>
      cases hid
      rfl
  | integer n =>
      rw [decode_integer] at h
      cases hn : ofInt? n with
      | none =>
          rw [hn] at h
          cases h
      | some i =>
          rw [hn] at h
          cases h
          exact toJson_of_ofInt? hn
  | string s =>
      cases hid
      rfl
  | bool b => cases hid
  | float x => cases hid
  | array items => cases hid
  | object fields => cases hid

/-- Ids with one JSON value are equal. -/
theorem toJson_inj {i j : Id} (h : i.toJson = j.toJson) : i = j := by
  have hread := ofJson?_toJson i
  rw [h, ofJson?_toJson] at hread
  exact (Option.some.inj hread).symm

end Id

namespace Rpc

/-- An id that is read is the value itself, and a value without an id is null. -/
theorem decodeOptionalId_ok {v : Json} {id : Option Id}
    (h : decodeOptionalId v.toDoc = .ok id) :
    (v = .null ∧ id = none) ∨ ∃ i, id = some i ∧ i.toJson = v ∧ v ≠ .null := by
  by_cases hv : v = .null
  · subst hv
    cases h
    exact .inl ⟨rfl, rfl⟩
  · have hmap : (Id.decode v.toDoc).map some = .ok id := by
      cases v with
      | null => exact absurd rfl hv
      | _ => exact h
    obtain ⟨i, hi, rfl⟩ := map_eq_ok hmap
    exact .inr ⟨i, rfl, Id.toJson_of_decode hi, hv⟩

theorem decodeMarker_ok {v : Json} {u : Unit} (h : decodeMarker v.toDoc = .ok u) :
    v = .string "2.0" := by
  obtain ⟨s, hs, hcheck⟩ := bind_eq_ok h
  have hv : v = .string s := by
    cases v <;> cases hs
    rfl
  split at hcheck
  · next heq => rw [hv, heq]
  · cases hcheck

/-- A marker that is read is the text `2.0`, and a value without a marker is null. -/
theorem decodeMarked_ok {v : Json} {marked : Bool} (h : decodeMarked v.toDoc = .ok marked) :
    (v = .null ∧ marked = false) ∨ (v = .string "2.0" ∧ marked = true) := by
  obtain ⟨w, hw, rfl⟩ := map_eq_ok h
  by_cases hv : v = .null
  · subst hv
    cases hw
    exact .inl ⟨rfl, rfl⟩
  · have hmap : (decodeMarker v.toDoc).map some = .ok w := by
      cases v with
      | null => exact absurd rfl hv
      | _ => exact hw
    obtain ⟨u, hu, rfl⟩ := map_eq_ok hmap
    exact .inr ⟨decodeMarker_ok hu, rfl⟩

theorem decodeMethod_ok {v : Json} {method : String} (h : decodeMethod v.toDoc = .ok method) :
    v = .string method := by
  cases v <;> cases h
  rfl

end Rpc

namespace Request

/-- Reading one field fills the slot of its name. -/
theorem Slots.read_eq_ok {s t : Slots} {name : String} {d : Json.Doc}
    (h : s.read name d = .ok t) :
    (name = "jsonrpc" ∧ s.marked = none ∧ ∃ v, Rpc.decodeMarked d = .ok v ∧
      t = { s with marked := some v }) ∨
    (name = "id" ∧ s.id = none ∧ ∃ v, Rpc.decodeOptionalId d = .ok v ∧
      t = { s with id := some v }) ∨
    (name = "method" ∧ s.method = none ∧ ∃ v, Rpc.decodeMethod d = .ok v ∧
      t = { s with method := some v }) ∨
    (name = "params" ∧ ∃ v, t = { s with params := v }) ∨
    (name ≠ "jsonrpc" ∧ name ≠ "id" ∧ name ≠ "method" ∧ name ≠ "params" ∧ t = s) := by
  unfold read at h
  split at h
  · obtain ⟨hnone, w, hw, rfl⟩ := Json.Slot.map_fill_eq_ok h
    exact .inl ⟨rfl, hnone, w, hw, rfl⟩
  · obtain ⟨hnone, w, hw, rfl⟩ := Json.Slot.map_fill_eq_ok h
    exact .inr (.inl ⟨rfl, hnone, w, hw, rfl⟩)
  · obtain ⟨hnone, w, hw, rfl⟩ := Json.Slot.map_fill_eq_ok h
    exact .inr (.inr (.inl ⟨rfl, hnone, w, hw, rfl⟩))
  · obtain ⟨v, _, rfl⟩ := map_eq_ok h
    exact .inr (.inr (.inr (.inl ⟨rfl, v, rfl⟩)))
  · next hmarked hid hmethod hparams =>
      obtain ⟨_, _, rfl⟩ := map_eq_ok h
      exact .inr (.inr (.inr (.inr ⟨hmarked, hid, hmethod, hparams, rfl⟩)))

section Slots

variable {fields : List (String × Json)} {s : Slots}
  (h : Json.foldFields Slots.read {} (Json.toDocFields fields) = .ok s)

include h

theorem marked_of_foldFields :
    s.marked.getD false = true ↔ Entries.find? "jsonrpc" fields = some (.string "2.0") := by
  have hslot := Json.slot_of_foldFields "jsonrpc" Slots.marked Rpc.decodeMarked
    (fun hr => by
      rcases Slots.read_eq_ok hr with ⟨_, hnone, v, hv, rfl⟩ | ⟨heq, _⟩ | ⟨heq, _⟩ | ⟨heq, _⟩ |
        ⟨hne, _⟩
      · exact ⟨hnone, v, hv, rfl⟩
      · exact absurd heq (by decide)
      · exact absurd heq (by decide)
      · exact absurd heq (by decide)
      · exact absurd rfl hne)
    (fun hk hr => by
      rcases Slots.read_eq_ok hr with ⟨heq, _⟩ | ⟨_, _, _, _, rfl⟩ | ⟨_, _, _, _, rfl⟩ |
        ⟨_, _, rfl⟩ | ⟨_, _, _, _, rfl⟩
      · exact absurd heq hk
      · rfl
      · rfl
      · rfl
      · rfl) h
  rcases hslot with ⟨hfind, hnone⟩ | ⟨v, marked, hfind, _, hv, hsome⟩
  · rw [hfind, hnone]
    simp
  · rw [hfind, hsome]
    rcases Rpc.decodeMarked_ok hv with ⟨rfl, rfl⟩ | ⟨rfl, rfl⟩ <;> simp

theorem id_of_foldFields (id : Id) :
    s.id.getD none = some id ↔ id ≠ .null ∧ Entries.find? "id" fields = some id.toJson := by
  have hslot := Json.slot_of_foldFields "id" Slots.id Rpc.decodeOptionalId
    (fun hr => by
      rcases Slots.read_eq_ok hr with ⟨heq, _⟩ | ⟨_, hnone, v, hv, rfl⟩ | ⟨heq, _⟩ | ⟨heq, _⟩ |
        ⟨_, hne, _⟩
      · exact absurd heq (by decide)
      · exact ⟨hnone, v, hv, rfl⟩
      · exact absurd heq (by decide)
      · exact absurd heq (by decide)
      · exact absurd rfl hne)
    (fun hk hr => by
      rcases Slots.read_eq_ok hr with ⟨_, _, _, _, rfl⟩ | ⟨heq, _⟩ | ⟨_, _, _, _, rfl⟩ |
        ⟨_, _, rfl⟩ | ⟨_, _, _, _, rfl⟩
      · rfl
      · exact absurd heq hk
      · rfl
      · rfl
      · rfl) h
  rcases hslot with ⟨hfind, hnone⟩ | ⟨v, found, hfind, _, hv, hsome⟩
  · rw [hfind, hnone]
    simp
  · rw [hfind, hsome]
    rcases Rpc.decodeOptionalId_ok hv with ⟨rfl, rfl⟩ | ⟨i, rfl, rfl, hi⟩
    · -- A null id is none, and only the id null is written as null.
      refine iff_of_false nofun fun hid => hid.1 ?_
      exact Id.toJson_inj (i := id) (j := .null) (Option.some.inj hid.2).symm
    · constructor
      · intro heq
        cases heq
        exact ⟨fun hnull => hi (by rw [hnull]; rfl), rfl⟩
      · intro hid
        rw [Id.toJson_inj (Option.some.inj hid.2)]
        rfl

theorem method_of_foldFields {method : String} (hm : s.method = some method) :
    Entries.find? "method" fields = some (.string method) := by
  have hslot := Json.slot_of_foldFields "method" Slots.method Rpc.decodeMethod
    (fun hr => by
      rcases Slots.read_eq_ok hr with ⟨heq, _⟩ | ⟨heq, _⟩ | ⟨_, hnone, v, hv, rfl⟩ | ⟨heq, _⟩ |
        ⟨_, _, hne, _⟩
      · exact absurd heq (by decide)
      · exact absurd heq (by decide)
      · exact ⟨hnone, v, hv, rfl⟩
      · exact absurd heq (by decide)
      · exact absurd rfl hne)
    (fun hk hr => by
      rcases Slots.read_eq_ok hr with ⟨_, _, _, _, rfl⟩ | ⟨_, _, _, _, rfl⟩ | ⟨heq, _⟩ |
        ⟨_, _, rfl⟩ | ⟨_, _, _, _, rfl⟩
      · rfl
      · rfl
      · exact absurd heq hk
      · rfl
      · rfl) h
  rcases hslot with ⟨_, hnone⟩ | ⟨v, found, hfind, _, hv, hsome⟩
  · rw [hm] at hnone
    cases hnone
  · rw [hm] at hsome
    cases hsome
    rw [hfind, Rpc.decodeMethod_ok hv]

end Slots

/-- What a decoded request has in common with the object that it was decoded from. -/
theorem decode_ok {fields : List (String × Json)} {r : Request}
    (h : decode (Json.object fields).toDoc = .ok r) :
    Entries.find? "method" fields = some (.string r.method) ∧
    (∀ id, r.id = some id ↔ id ≠ .null ∧ Entries.find? "id" fields = some id.toJson) ∧
    (r.marked = true ↔ Entries.find? "jsonrpc" fields = some (.string "2.0")) := by
  obtain ⟨s, hs, hrest⟩ := bind_eq_ok
    (show (Json.foldFields Slots.read {} (Json.toDocFields fields) >>= _) = _ from h)
  obtain ⟨_, _, hrest⟩ := bind_eq_ok hrest
  obtain ⟨method, hmethod, hrest⟩ := bind_eq_ok hrest
  cases hrest
  have hm : s.method = some method := by
    cases hsm : s.method with
    | none =>
        rw [hsm] at hmethod
        cases hmethod
    | some w =>
        rw [hsm] at hmethod
        cases hmethod
        rfl
  exact ⟨method_of_foldFields hs hm, id_of_foldFields hs, marked_of_foldFields hs⟩

end Request

/-! ## Responses -/

namespace Response

/-- The id and the marker of a response as they are written. -/
theorem get?_toJson (r : Response) :
    r.toJson.get? "id" = some r.id.toJson ∧
    r.toJson.get? "jsonrpc" = if r.marked then some (.string "2.0") else none := by
  obtain ⟨k, v, hone, hid, hmarker⟩ : ∃ k v, r.payload.fieldsWith Json.ofFields = [(k, v)] ∧
      "id" ≠ k ∧ "jsonrpc" ≠ k := by
    cases r.payload with
    | error details => exact ⟨"error", _, rfl, by decide, by decide⟩
    | success result => exact ⟨"result", _, rfl, by decide, by decide⟩
  unfold toJson fieldsWith
  rw [hone]
  constructor
  · show Entries.find? "id" (Entries.ofList _) = _
    rw [Entries.find?_ofList_concat, if_neg hid, Entries.find?_ofList_concat, if_pos rfl]
  · show Entries.find? "jsonrpc" (Entries.ofList _) = _
    rw [Entries.find?_ofList_concat, if_neg hmarker, Entries.find?_ofList_concat,
      if_neg (by decide)]
    cases r.marked <;> rfl

end Response

end Switchboard
