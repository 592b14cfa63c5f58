/-
# Switchboard.Proofs.Json.Documents -- a value and the document made from it

A document that was made from a value can always be read as a whole (`buffer_toDoc`), and it
gives the value back if all objects inside have their keys in ascending order (`asJson_toDoc`), as
those have that were read (`ordered_of_toJson`) or put together by the library
(`ordered_ofFields`).

The rest is about records: fields that are written one after the other are read one after the
other (`foldFields_append`), whatever field was read made a step (`step_of_foldFields`), and a
record whose fields have different names can be read just when each of them can be read by itself
(`isOk_foldFields`).
-/

import Mathlib.Data.List.Induction
import Switchboard.Json.Decode

namespace Switchboard

universe u

namespace Entries

variable {β : Type u}

theorem insert_of_forall_lt {k : String} (v : β) {es : List (String × β)}
    (h : ∀ e ∈ es, e.1 < k) : insert k v es = es ++ [(k, v)] := by
  induction es with
  | nil => rfl
  | cons e es ih =>
      have hlt := h e List.mem_cons_self
      have hnot : ¬k < e.1 := fun hgt => String.lt_irrefl _ (String.lt_trans hlt hgt)
      have hne : k ≠ e.1 := fun heq => String.lt_irrefl _ (heq ▸ hlt)
      simp [insert, hnot, hne, ih fun f hf => h f (List.mem_cons_of_mem _ hf)]

/-- Entries that are in order already stay as they are. -/
theorem ofList_of_ascending {es : List (String × β)} (h : Ascending es) : ofList es = es := by
  induction es using List.reverseRecOn with
  | nil => rfl
  | append_singleton es e ih =>
      obtain ⟨hes, _, hlt⟩ := List.pairwise_append.1 h
      rw [ofList, List.foldl_append]
      show insert e.1 e.2 (ofList es) = _
      rw [ih hes]
      exact insert_of_forall_lt e.2 fun f hf => hlt f hf e (List.mem_singleton.2 rfl)

theorem mem_of_mem_insert {k : String} {v : β} {es : List (String × β)} {e : String × β}
    (h : e ∈ insert k v es) : e = (k, v) ∨ e ∈ es := by
  fun_induction insert k v es with
  | case1 => exact .inl (List.mem_singleton.1 h)
  | case2 => exact List.mem_cons.1 h
  | case3 => exact (List.mem_cons.1 h).imp_right (List.mem_cons_of_mem _)
  | case4 l w es _ _ ih =>
      rcases List.mem_cons.1 h with heq | h
      · exact .inr (List.mem_cons.2 (.inl heq))
      · exact (ih h).imp_right (List.mem_cons_of_mem _)

/-- Putting entries in order adds none. -/
theorem mem_of_mem_ofList {es : List (String × β)} {e : String × β} (h : e ∈ ofList es) :
    e ∈ es := by
  induction es using List.reverseRecOn with
  | nil => exact h
  | append_singleton es f ih =>
      rw [ofList, List.foldl_append] at h
      rcases mem_of_mem_insert h with heq | h
      · exact List.mem_append_right es (List.mem_singleton.2 heq)
      · exact List.mem_append_left [f] (ih h)

theorem find?_eq_none_iff {k : String} {es : List (String × β)} :
    find? k es = none ↔ k ∉ es.map Prod.fst := by
  induction es with
  | nil => exact iff_of_true rfl List.not_mem_nil
  | cons e es ih =>
      by_cases hk : k = e.1
      · simp [find?, hk]
      · simp [find?, hk, ih]

/-- The last pair of a list counts. -/
theorem find?_ofList_concat (es : List (String × β)) (k j : String) (v : β) :
    find? j (ofList (es ++ [(k, v)])) = if j = k then some v else find? j (ofList es) := by
  rw [show ofList (es ++ [(k, v)]) = insert k v (ofList es) by simp [ofList, List.foldl_append],
    find?_insert k j v (ascending_ofList es)]

/-- Putting entries with different keys in order changes none of them. -/
theorem find?_ofList {es : List (String × β)} (h : (es.map Prod.fst).Nodup) (k : String) :
    find? k (ofList es) = find? k es := by
  induction es using List.reverseRecOn with
  | nil => rfl
  | append_singleton es e ih =>
      obtain ⟨l, v⟩ := e
      rw [List.map_append, List.nodup_append] at h
      obtain ⟨hes, _, hnew⟩ := h
      rw [find?_ofList_concat, find?_append, ih hes]
      split
      · next hk =>
          have hnone : find? k es = none := by
            rw [find?_eq_none_iff]
            intro hmem
            exact hnew k hmem l (by simp) hk
          rw [hnone, Option.none_or, hk, find?, if_pos rfl]
      · next hk => simp [hk, find?]

theorem nodup_of_ascending {es : List (String × β)} (h : Ascending es) :
    (es.map Prod.fst).Nodup := by
  refine List.pairwise_map.2 (h.imp fun hlt heq => ?_)
  rw [heq] at hlt
  exact String.lt_irrefl _ hlt

end Entries

namespace Json

/-! ## Values in order -/

mutual

/-- All objects inside a value, the value included, have their keys in ascending order. -/
def Ordered : Json → Prop
  | .array items => OrderedItems items
  | .object fields => Entries.Ascending fields ∧ OrderedFields fields
  | _ => True

/-- All items are in order. -/
def OrderedItems : List Json → Prop
  | [] => True
  | v :: vs => Ordered v ∧ OrderedItems vs

/-- The values of all fields are in order. -/
def OrderedFields : List (String × Json) → Prop
  | [] => True
  | (_, v) :: fs => Ordered v ∧ OrderedFields fs

end

theorem orderedFields_iff (fs : List (String × Json)) :
    OrderedFields fs ↔ ∀ f ∈ fs, f.2.Ordered := by
  induction fs with
  | nil => simp [OrderedFields]
  | cons f fs ih => simp [OrderedFields, ih]

theorem ordered_ofFields {fs : List (String × Json)} (h : OrderedFields fs) :
    (ofFields fs).Ordered := by
  refine ⟨Entries.ascending_ofList fs, (orderedFields_iff _).2 fun f hf => ?_⟩
  exact (orderedFields_iff fs).1 h f (Entries.mem_of_mem_ofList hf)

mutual

/-- Values that are read are in order. -/
theorem ordered_of_toJson : (d : Doc) → {v : Json} → d.toJson = .ok v → v.Ordered
  | .null, _, h | .bool _, _, h | .integer _, _, h | .float _, _, h | .string _, _, h => by
      cases h
      trivial
  | .array items close, _, h => by
      rw [Doc.toJson] at h
      split at h
      · cases h
      next vs hvs =>
        split at h <;> cases h
        exact ordered_of_toJsonItems items hvs
  | .object fields close, _, h => by
      rw [Doc.toJson] at h
      split at h
      · cases h
      next fs hfs =>
        split at h <;> cases h
        exact ordered_ofFields (ordered_of_toJsonFields fields hfs)
  | .faulty _ _, _, h => by cases h

theorem ordered_of_toJsonItems : (ds : List Doc) → {vs : List Json} →
    Doc.toJsonItems ds = .ok vs → OrderedItems vs
  | [], _, h => by
      cases h
      trivial
  | d :: ds, _, h => by
      rw [Doc.toJsonItems] at h
      split at h
      · cases h
      next v hv =>
        cases hvs : Doc.toJsonItems ds with
        | error e =>
            rw [hvs] at h
            cases h
        | ok vs =>
            rw [hvs] at h
            cases h
            exact ⟨ordered_of_toJson d hv, ordered_of_toJsonItems ds hvs⟩

theorem ordered_of_toJsonFields : (ds : List (String × Doc)) → {fs : List (String × Json)} →
    Doc.toJsonFields ds = .ok fs → OrderedFields fs
  | [], _, h => by
      cases h
      trivial
  | (k, d) :: ds, _, h => by
      rw [Doc.toJsonFields] at h
      split at h
      · cases h
      next v hv =>
        cases hfs : Doc.toJsonFields ds with
        | error e =>
            rw [hfs] at h
            cases h
        | ok fs =>
            rw [hfs] at h
            cases h
            exact ⟨ordered_of_toJson d hv, ordered_of_toJsonFields ds hfs⟩

end

/-! ## Reading a whole document -/

mutual

/-- A document made from a value in order gives the value back. -/
theorem toJson_toDoc : (v : Json) → v.Ordered → v.toDoc.toJson = .ok v
  | .null, _ => rfl
  | .bool _, _ => rfl
  | .integer _, _ => rfl
  | .float _, _ => rfl
  | .string _, _ => rfl
  | .array items, h => by
      rw [toDoc, Doc.toJson, toJson_toDocItems items h]
      rfl
  | .object fields, h => by
      rw [toDoc, Doc.toJson, toJson_toDocFields fields h.2]
      show Except.ok (ofFields fields) = _
      rw [ofFields, Entries.ofList_of_ascending h.1]

theorem toJson_toDocItems : (vs : List Json) → OrderedItems vs →
    Doc.toJsonItems (toDocItems vs) = .ok vs
  | [], _ => rfl
  | v :: vs, h => by
      rw [toDocItems, Doc.toJsonItems, toJson_toDoc v h.1, toJson_toDocItems vs h.2]
      rfl

theorem toJson_toDocFields : (fs : List (String × Json)) → OrderedFields fs →
    Doc.toJsonFields (toDocFields fs) = .ok fs
  | [], _ => rfl
  | (k, v) :: fs, h => by
      rw [toDocFields, Doc.toJsonFields, toJson_toDoc v h.1, toJson_toDocFields fs h.2]
      rfl

end

mutual

/-- A document made from a value has no faults, whatever the value. -/
theorem exists_toJson_toDoc : (v : Json) → ∃ w, v.toDoc.toJson = .ok w
  | .null => ⟨_, rfl⟩
  | .bool _ => ⟨_, rfl⟩
  | .integer _ => ⟨_, rfl⟩
  | .float _ => ⟨_, rfl⟩
  | .string _ => ⟨_, rfl⟩
  | .array items => by
      obtain ⟨ws, hws⟩ := exists_toJson_toDocItems items
      exact ⟨.array ws, by rw [toDoc, Doc.toJson, hws]; rfl⟩
  | .object fields => by
      obtain ⟨ws, hws⟩ := exists_toJson_toDocFields fields
      exact ⟨ofFields ws, by rw [toDoc, Doc.toJson, hws]; rfl⟩

theorem exists_toJson_toDocItems : (vs : List Json) →
    ∃ ws, Doc.toJsonItems (toDocItems vs) = .ok ws
  | [] => ⟨_, rfl⟩
  | v :: vs => by
      obtain ⟨w, hw⟩ := exists_toJson_toDoc v
      obtain ⟨ws, hws⟩ := exists_toJson_toDocItems vs
      exact ⟨w :: ws, by rw [toDocItems, Doc.toJsonItems, hw, hws]; rfl⟩

theorem exists_toJson_toDocFields : (fs : List (String × Json)) →
    ∃ ws, Doc.toJsonFields (toDocFields fs) = .ok ws
  | [] => ⟨_, rfl⟩
  | (k, v) :: fs => by
      obtain ⟨w, hw⟩ := exists_toJson_toDoc v
      obtain ⟨ws, hws⟩ := exists_toJson_toDocFields fs
      exact ⟨(k, w) :: ws, by rw [toDocFields, Doc.toJsonFields, hw, hws]; rfl⟩

end

theorem asJson_toDoc {v : Json} (h : v.Ordered) : v.toDoc.asJson = .ok v := by
  unfold Doc.asJson
  rw [toJson_toDoc v h]

theorem exists_asJson_toDoc (v : Json) : ∃ w, v.toDoc.asJson = .ok w := by
  obtain ⟨w, hw⟩ := exists_toJson_toDoc v
  exact ⟨w, by rw [Doc.asJson, hw]⟩

theorem buffer_of_toJson {d : Doc} {v : Json} (h : d.toJson = .ok v) : d.buffer = .ok () := by
  unfold Doc.buffer Doc.readError?
  rw [h]

@[simp] theorem buffer_toDoc (v : Json) : v.toDoc.buffer = .ok () := by
  obtain ⟨w, hw⟩ := exists_toJson_toDoc v
  exact buffer_of_toJson hw

/-- The same for an object that is put together from documents. -/
theorem buffer_object_toDocFields (fs : List (String × Json)) :
    (Doc.object (toDocFields fs) .closed).buffer = .ok () := by
  obtain ⟨ws, hws⟩ := exists_toJson_toDocFields fs
  refine buffer_of_toJson (v := ofFields ws) ?_
  rw [Doc.toJson, hws]
  rfl

mutual

/-- A document made from a value can be passed over, too. -/
theorem skipError?_toDoc : (v : Json) → v.toDoc.skipError? = none
  | .null | .bool _ | .integer _ | .float _ | .string _ => rfl
  | .array items => by
      rw [toDoc, Doc.skipError?, skipErrorItems?_toDocItems items]
      rfl
  | .object fields => by
      rw [toDoc, Doc.skipError?, skipErrorFields?_toDocFields fields]
      rfl

theorem skipErrorItems?_toDocItems : (vs : List Json) →
    Doc.skipErrorItems? (toDocItems vs) = none
  | [] => rfl
  | v :: vs => by
      rw [toDocItems, Doc.skipErrorItems?, skipError?_toDoc v, skipErrorItems?_toDocItems vs]
      rfl

theorem skipErrorFields?_toDocFields : (fs : List (String × Json)) →
    Doc.skipErrorFields? (toDocFields fs) = none
  | [] => rfl
  | (k, v) :: fs => by
      rw [toDocFields, Doc.skipErrorFields?, skipError?_toDoc v, skipErrorFields?_toDocFields fs]
      rfl

end

@[simp] theorem ignore_toDoc (v : Json) : v.toDoc.ignore = .ok () := by
  unfold Doc.ignore
  rw [skipError?_toDoc]

/-- Only the value `null` is read as none. -/
theorem asOption_toDoc {α : Type} (decode : Doc → Except DecodeError α) {v : Json}
    (h : v ≠ .null) : v.toDoc.asOption decode = (decode v.toDoc).map some := by
  cases v with
  | null => exact absurd rfl h
  | _ => rfl

/-! ## Reading fields -/

theorem toDocFields_append (fs gs : List (String × Json)) :
    toDocFields (fs ++ gs) = toDocFields fs ++ toDocFields gs := by
  induction fs with
  | nil => rfl
  | cons f fs ih => simp [toDocFields, ih]

theorem find?_toDocFields (k : String) (fs : List (String × Json)) :
    Entries.find? k (toDocFields fs) = (Entries.find? k fs).map toDoc := by
  induction fs with
  | nil => rfl
  | cons f fs ih =>
      by_cases hk : k = f.1
      · simp [toDocFields, Entries.find?, hk]
      · simp [toDocFields, Entries.find?, hk, ih]

theorem map_fst_toDocFields (fs : List (String × Json)) :
    (toDocFields fs).map Prod.fst = fs.map Prod.fst := by
  induction fs with
  | nil => rfl
  | cons f fs ih => simp [toDocFields, ih]

section Fields

variable {σ : Type} {step : σ → String → Doc → Except DecodeError σ} {s t : σ}

theorem foldFields_cons_of_ok {k : String} {d : Doc} (h : step s k d = .ok t)
    (fs : List (String × Doc)) : foldFields step s ((k, d) :: fs) = foldFields step t fs := by
  rw [foldFields, h]

/-- What is read first changes what the rest is read into. -/
theorem foldFields_append {fs : List (String × Json)}
    (h : foldFields step s (toDocFields fs) = .ok t) (gs : List (String × Json)) :
    foldFields step s (toDocFields (fs ++ gs)) = foldFields step t (toDocFields gs) := by
  rw [toDocFields_append]
  generalize toDocFields fs = ds at h
  induction ds generalizing s with
  | nil =>
      cases h
      rfl
  | cons d ds ih =>
      obtain ⟨k, d⟩ := d
      rw [foldFields] at h
      cases hd : step s k d with
      | error e =>
          rw [hd] at h
          cases h
      | ok s' =>
          rw [hd] at h
          rw [List.cons_append, foldFields_cons_of_ok hd]
          exact ih h

/-- All fields of an object that was read were read. -/
theorem step_of_foldFields {fs : List (String × Json)}
    (h : foldFields step s (toDocFields fs) = .ok t) {k : String} {v : Json} (hmem : (k, v) ∈ fs) :
    ∃ s' t', step s' k v.toDoc = .ok t' := by
  induction fs generalizing s with
  | nil => cases hmem
  | cons f fs ih =>
      obtain ⟨l, w⟩ := f
      rw [toDocFields, foldFields] at h
      cases hd : step s l w.toDoc with
      | error e =>
          rw [hd] at h
          cases h
      | ok s' =>
          rw [hd] at h
          rcases List.mem_cons.1 hmem with heq | hmem
          · cases heq
            exact ⟨s, s', hd⟩
          · exact ih h hmem

end Fields

/-! ## Whether a record can be read -/

theorem isOk_iff {ε α : Type} {x : Except ε α} : x.isOk = true ↔ ∃ a, x = .ok a := by
  cases x with
  | error e => simp [Except.isOk, Except.toBool]
  | ok a => simp [Except.isOk, Except.toBool]

@[simp] theorem isOk_error {ε α : Type} (e : ε) : (.error e : Except ε α).isOk = false := rfl

@[simp] theorem isOk_map {ε α β : Type} (x : Except ε α) (f : α → β) :
    (x.map f).isOk = x.isOk := by
  cases x <;> rfl

theorem isOk_bind {ε α β : Type} {x : Except ε α} {f : α → Except ε β} :
    (x >>= f).isOk = true ↔ ∃ a, x = .ok a ∧ (f a).isOk = true := by
  cases x with
  | error e => exact iff_of_false nofun fun ⟨_, h, _⟩ => nomatch h
  | ok a => exact ⟨fun h => ⟨a, rfl, h⟩, fun ⟨_, rfl, h⟩ => h⟩

theorem Slot.required_eq_ok {α : Type} {slot : Slot α} {name : String} {a : α} :
    slot.required name = .ok a ↔ slot = some a := by
  cases slot with
  | none => exact iff_of_false nofun nofun
  | some b => simp [Slot.required]

@[simp] theorem Slot.isOk_fill {α : Type} (slot : Slot α) (name : String)
    (decode : Doc → Except DecodeError α) (d : Doc) :
    (slot.fill name decode d).isOk = (slot.isNone && (decode d).isOk) := by
  cases slot with
  | none => exact isOk_map (decode d) some
  | some v => rfl

/-- Reading one field makes no difference to whether a field of another name can be read. -/
def Independent {σ : Type} (step : σ → String → Doc → Except DecodeError σ) : Prop :=
  ∀ {s t : σ} {k j : String} {d : Doc}, step s k d = .ok t → j ≠ k →
    ∀ e, (step t j e).isOk = (step s j e).isOk

section Records

variable {σ : Type} {step : σ → String → Doc → Except DecodeError σ}

/-- Fields of different names can be read one after the other just when each of them can be read
by itself. -/
theorem isOk_foldDocs (hstep : Independent step) (s : σ) {fs : List (String × Doc)}
    (h : (fs.map Prod.fst).Nodup) : (foldFields step s fs).isOk = true ↔
      ∀ k d, Entries.find? k fs = some d → (step s k d).isOk = true := by
  induction fs generalizing s with
  | nil => exact iff_of_true rfl nofun
  | cons f fs ih =>
      obtain ⟨k, v⟩ := f
      obtain ⟨hfirst, hfs⟩ := List.nodup_cons.1 h
      have hnone : Entries.find? k fs = none := Entries.find?_eq_none_iff.2 hfirst
      rw [foldFields]
      cases hv : step s k v with
      | error e =>
          refine iff_of_false nofun ?_
          intro hall
          have hread := hall k v (by simp [Entries.find?])
          rw [hv] at hread
          cases hread
      | ok t =>
          -- What was read first does not matter to the others, which have other names.
          have hothers : ∀ {j w}, Entries.find? j fs = some w →
              j ≠ k ∧ (step t j w).isOk = (step s j w).isOk := by
            intro j w hj
            have hne : j ≠ k := by
              rintro rfl
              rw [hnone] at hj
              cases hj
            exact ⟨hne, hstep hv hne w⟩
          show (foldFields step t fs).isOk = true ↔ _
          rw [ih t hfs]
          constructor
          · intro hall j w hj
            by_cases hjk : j = k
            · subst hjk
              simp only [Entries.find?, if_true, Option.some.injEq] at hj
              rw [← hj, hv]
              rfl
            · have hj : Entries.find? j fs = some w := by simpa [Entries.find?, hjk] using hj
              rw [← (hothers hj).2]
              exact hall j w hj
          · intro hall j w hj
            obtain ⟨hne, hsame⟩ := hothers hj
            rw [hsame]
            exact hall j w (by simpa [Entries.find?, hne] using hj)

/-- So can the fields of a value. -/
theorem isOk_foldFields (hstep : Independent step) (s : σ) {fs : List (String × Json)}
    (h : Entries.Ascending fs) : (foldFields step s (toDocFields fs)).isOk = true ↔
      ∀ k v, Entries.find? k fs = some v → (step s k v.toDoc).isOk = true := by
  have hnames : ((toDocFields fs).map Prod.fst).Nodup := by
    rw [map_fst_toDocFields]
    exact Entries.nodup_of_ascending h
  rw [isOk_foldDocs hstep s hnames]
  simp only [find?_toDocFields, Option.map_eq_some_iff]
  constructor
  · intro hall k v hv
    exact hall k v.toDoc ⟨v, hv, rfl⟩
  · rintro hall k _ ⟨v, hv, rfl⟩
    exact hall k v hv

/-- A slot that every field of the name `name` fills, and no other, is filled just when there is
such a field. -/
theorem isSome_of_foldFields {α : Type} {name : String} {slot : σ → Slot α}
    (hslot : ∀ {s t : σ} {k : String} {d : Doc}, step s k d = .ok t →
      (slot t).isSome = (decide (k = name) || (slot s).isSome))
    {fields : List (String × Json)} {s t : σ}
    (h : foldFields step s (toDocFields fields) = .ok t) :
    (slot t).isSome = ((Entries.find? name fields).isSome || (slot s).isSome) := by
  induction fields generalizing s with
  | nil =>
      cases h
      rfl
  | cons f fs ih =>
      obtain ⟨k, v⟩ := f
      simp only [toDocFields, foldFields] at h
      split at h
      · cases h
      · next b hb =>
          rw [ih h, hslot hb]
          by_cases hk : name = k
          · simp [Entries.find?, hk]
          · simp [Entries.find?, hk, Ne.symm hk]

/-- A record with a field that must be there can be read just when each field can be read, that
one is there, and something can be made of what was read. -/
theorem isOk_record {α β : Type} (hstep : Independent step) {name : String} {slot : σ → Slot α}
    (hslot : ∀ {s t : σ} {k : String} {d : Doc}, step s k d = .ok t →
      (slot t).isSome = (decide (k = name) || (slot s).isSome))
    {s : σ} (hs : slot s = none) (make : σ → α → Except DecodeError β) (d : Dict Json) :
    (do
      let t ← foldFields step s (toDocFields d.entries)
      let a ← (slot t).required name
      make t a).isOk = true ↔
      (∀ k v, d.find? k = some v → (step s k v.toDoc).isOk = true) ∧
      (∃ v, d.find? name = some v) ∧
      ∀ t a, foldFields step s (toDocFields d.entries) = .ok t → slot t = some a →
        (make t a).isOk = true := by
  have hfilled {t : σ} (ht : foldFields step s (toDocFields d.entries) = .ok t) :
      (∃ a, slot t = some a) ↔ ∃ v, d.find? name = some v := by
    have hsome := isSome_of_foldFields hslot ht
    rw [hs, Option.isSome_none, Bool.or_false] at hsome
    rw [← Option.isSome_iff_exists, ← Option.isSome_iff_exists, hsome]
    rfl
  rw [isOk_bind]
  simp only [isOk_bind, Slot.required_eq_ok]
  have hread := isOk_foldFields hstep s d.ascending
  constructor
  · rintro ⟨t, ht, a, ha, hmake⟩
    refine ⟨hread.1 (isOk_iff.2 ⟨t, ht⟩), (hfilled ht).1 ⟨a, ha⟩, ?_⟩
    intro t' a' ht' ha'
    cases ht.symm.trans ht'
    cases ha.symm.trans ha'
    exact hmake
  · rintro ⟨hall, hthere, hmake⟩
    obtain ⟨t, ht⟩ := isOk_iff.1 (hread.2 hall)
    obtain ⟨a, ha⟩ := (hfilled ht).2 hthere
    exact ⟨t, ht, a, ha, hmake t a ht ha⟩

end Records

end Json

end Switchboard
