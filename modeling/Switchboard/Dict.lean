/-
# Switchboard.Dict -- dictionaries keyed by text

Every ordered table of the library is a `Dict`: the headers of a message, the handlers by
destination, the sessions by notification method. Entries stand in strictly ascending order of
their keys (characters compared by code point), so a dictionary with given contents has exactly
one form: `Dict.ext_find?` turns equal look-ups into equal dictionaries.

The raw operations work on lists of pairs, because the objects of a JSON value are such lists.
-/

namespace Switchboard

universe u v

/-! ## Ordered lists of pairs -/

namespace Entries

variable {β : Type u}

/-- Keys strictly ascend, hence none stands twice. -/
def Ascending (es : List (String × β)) : Prop := es.Pairwise fun a b => a.1 < b.1

/-- The value stored under a key. -/
def find? (k : String) : List (String × β) → Option β
  | [] => none
  | (l, v) :: es => if k = l then some v else find? k es

/-- Stores a value under a key, in its place by order, instead of any earlier value. -/
def insert (k : String) (v : β) : List (String × β) → List (String × β)
  | [] => [(k, v)]
  | (l, w) :: es =>
    if k < l then (k, v) :: (l, w) :: es
    else if k = l then (k, v) :: es
    else (l, w) :: insert k v es

/-- Removes a key and its value. -/
def erase (k : String) (es : List (String × β)) : List (String × β) :=
  es.filter fun e => e.1 ≠ k

/-- The ordered entries of pairs in any order; of a key that stands twice the last value counts. -/
def ofList (es : List (String × β)) : List (String × β) :=
  es.foldl (fun acc e => insert e.1 e.2 acc) []

theorem key_of_mem_insert {k : String} {v : β} {es : List (String × β)} {e : String × β}
    (h : e ∈ insert k v es) : e.1 = k ∨ e ∈ es := by
  induction es with
  | nil => simp only [insert, List.mem_singleton] at h; simp [h]
  | cons f es ih =>
    obtain ⟨l, w⟩ := f
    simp only [insert] at h
    split at h
    · rcases List.mem_cons.1 h with rfl | h
      · exact .inl rfl
      · exact .inr h
    · split at h
      · rcases List.mem_cons.1 h with rfl | h
        · exact .inl rfl
        · exact .inr (List.mem_cons_of_mem _ h)
      · rcases List.mem_cons.1 h with rfl | h
        · exact .inr List.mem_cons_self
        · exact (ih h).imp_right (List.mem_cons_of_mem _)

theorem ascending_insert (k : String) (v : β) {es : List (String × β)} (h : Ascending es) :
    Ascending (insert k v es) := by
  induction es with
  | nil => exact List.pairwise_singleton _ _
  | cons f es ih =>
    obtain ⟨l, w⟩ := f
    have hes := List.pairwise_cons.1 h
    simp only [insert]
    split
    · next hkl =>
      refine List.pairwise_cons.2 ⟨fun e he => ?_, h⟩
      rcases List.mem_cons.1 he with rfl | he
      · exact hkl
      · exact String.lt_trans hkl (hes.1 e he)
    · split
      · next hkl => subst hkl; exact List.pairwise_cons.2 ⟨hes.1, hes.2⟩
      · next hkl hne =>
        refine List.pairwise_cons.2 ⟨fun e he => ?_, ih hes.2⟩
        rcases key_of_mem_insert he with he | he
        · have hlt : l < k := by
            rcases String.le_total k l with hle | hle
            · exact absurd (String.le_antisymm hle (String.not_lt.1 hkl)) hne
            · exact String.not_le.1 fun hle' => hne (String.le_antisymm hle' hle)
          simpa [he] using hlt
        · exact hes.1 e he

theorem ascending_erase (k : String) {es : List (String × β)} (h : Ascending es) :
    Ascending (erase k es) :=
  h.filter _

theorem ascending_ofList (es : List (String × β)) : Ascending (ofList es) := by
  suffices ∀ acc : List (String × β), Ascending acc →
      Ascending (es.foldl (fun acc e => insert e.1 e.2 acc) acc) from this [] List.Pairwise.nil
  induction es with
  | nil => exact fun _ h => h
  | cons e es ih => exact fun acc h => ih _ (ascending_insert _ _ h)

theorem find?_eq_none_of_lt {k : String} {es : List (String × β)}
    (h : ∀ e ∈ es, k < e.1) : find? k es = none := by
  induction es with
  | nil => rfl
  | cons e es ih =>
    have hlt := h e List.mem_cons_self
    have hne : k ≠ e.1 := fun heq => String.lt_irrefl _ (heq ▸ hlt)
    simp [find?, hne, ih fun f hf => h f (List.mem_cons_of_mem _ hf)]

theorem find?_insert (k j : String) (v : β) {es : List (String × β)} (h : Ascending es) :
    find? j (insert k v es) = if j = k then some v else find? j es := by
  induction es with
  | nil => simp [insert, find?]
  | cons f es ih =>
    obtain ⟨l, w⟩ := f
    have hes := List.pairwise_cons.1 h
    simp only [insert]
    split
    · simp [find?]
    · split
      · next hkl => subst hkl; by_cases hj : j = k <;> simp [find?, hj]
      · next hne =>
        simp only [find?]
        rw [ih hes.2]
        by_cases hj : j = l
        · subst hj; simp [Ne.symm hne]
        · simp [hj]

theorem find?_erase (k j : String) (es : List (String × β)) :
    find? j (erase k es) = if j = k then none else find? j es := by
  induction es with
  | nil => simp [erase, find?]
  | cons f es ih =>
    obtain ⟨l, w⟩ := f
    by_cases hl : l = k
    · subst hl
      have : erase l ((l, w) :: es) = erase l es := by simp [erase]
      rw [this, ih]
      by_cases hj : j = l <;> simp [find?, hj]
    · have : erase k ((l, w) :: es) = (l, w) :: erase k es := by simp [erase, hl]
      rw [this]
      simp only [find?, ih]
      by_cases hj : j = l
      · subst hj; simp [hl]
      · simp [hj]

theorem mem_iff_find? {k : String} {v : β} {es : List (String × β)} (h : Ascending es) :
    (k, v) ∈ es ↔ find? k es = some v := by
  induction es with
  | nil => simp [find?]
  | cons f es ih =>
    obtain ⟨l, w⟩ := f
    have hes := List.pairwise_cons.1 h
    by_cases hk : k = l
    · subst hk
      have : (k, v) ∉ es := fun hm => String.lt_irrefl k (hes.1 (k, v) hm)
      simp [find?, this, eq_comm]
    · simp [find?, hk, ih hes.2]

theorem find?_filterMap {γ : Type v} (f : String → β → Option γ) (j : String)
    {es : List (String × β)} (h : Ascending es) :
    find? j (es.filterMap fun e => (f e.1 e.2).map (e.1, ·)) = (find? j es).bind (f j) := by
  induction es with
  | nil => rfl
  | cons e es ih =>
    obtain ⟨l, w⟩ := e
    have hes := List.pairwise_cons.1 h
    simp only [List.filterMap_cons, find?]
    by_cases hj : j = l
    · subst hj
      cases hf : f j w with
      | none => simp [ih hes.2, find?_eq_none_of_lt hes.1, hf]
      | some x => simp [find?, hf]
    · cases hf : f l w with
      | none => simp [ih hes.2, hj]
      | some x => simp [find?, ih hes.2, hj]

theorem find?_append (k : String) (es fs : List (String × β)) :
    find? k (es ++ fs) = (find? k es).or (find? k fs) := by
  induction es with
  | nil => rfl
  | cons e es ih =>
      by_cases hk : k = e.1 <;> simp [find?, hk, ih]

theorem mem_of_find? {k : String} {v : β} {es : List (String × β)} (h : find? k es = some v) :
    (k, v) ∈ es := by
  induction es with
  | nil => cases h
  | cons e es ih =>
      obtain ⟨l, w⟩ := e
      by_cases hk : k = l
      · simp only [find?, if_pos hk] at h
        cases h
        rw [hk]
        exact List.mem_cons_self
      · simp only [find?, if_neg hk] at h
        exact List.mem_cons_of_mem _ (ih h)

theorem exists_find?_of_mem {k : String} {v : β} {es : List (String × β)} (h : (k, v) ∈ es) :
    ∃ w, find? k es = some w := by
  induction es with
  | nil => cases h
  | cons e es ih =>
      obtain ⟨l, w⟩ := e
      by_cases hk : k = l
      · exact ⟨w, by simp [find?, hk]⟩
      · rcases List.mem_cons.1 h with heq | h
        · cases heq
          exact absurd rfl hk
        · obtain ⟨w', hw'⟩ := ih h
          exact ⟨w', by simpa [find?, hk] using hw'⟩

/-- Ordered entries are determined by their look-ups. -/
theorem ext_find? {es fs : List (String × β)} (he : Ascending es) (hf : Ascending fs)
    (h : ∀ k, find? k es = find? k fs) : es = fs := by
  induction es generalizing fs with
  | nil =>
    cases fs with
    | nil => rfl
    | cons f fs => simpa [find?] using h f.1
  | cons e es ih =>
    cases fs with
    | nil => simpa [find?] using h e.1
    | cons f fs =>
      obtain ⟨k, v⟩ := e
      obtain ⟨l, w⟩ := f
      have hes := List.pairwise_cons.1 he
      have hfs := List.pairwise_cons.1 hf
      have hkl : k = l := by
        by_cases hkl : k = l
        · exact hkl
        · have h1 := (mem_iff_find? hf (k := k) (v := v)).2 (by rw [← h k]; simp [find?])
          have h2 := (mem_iff_find? he (k := l) (v := w)).2 (by rw [h l]; simp [find?])
          have h1 : (k, v) ∈ fs := by simpa [hkl] using h1
          have h2 : (l, w) ∈ es := by simpa [Ne.symm hkl] using h2
          exact absurd (String.lt_trans (hfs.1 _ h1) (hes.1 _ h2)) (String.lt_irrefl _)
      subst hkl
      have hvw : v = w := by simpa [find?] using h k
      subst hvw
      congr 1
      refine ih hes.2 hfs.2 fun j => ?_
      by_cases hj : j = k
      · subst hj
        rw [find?_eq_none_of_lt fun e he => hes.1 e he,
          find?_eq_none_of_lt fun f hf => hfs.1 f hf]
      · simpa [find?, hj] using h j

end Entries

/-! ## Dictionaries -/

/-- A finite map from text, in ascending order of its keys. -/
structure Dict (β : Type u) where
  /-- The pairs of key and value. -/
  entries : List (String × β)
  /-- The keys ascend. -/
  ascending : Entries.Ascending entries := by exact List.Pairwise.nil

namespace Dict

variable {β : Type u}

/-- The dictionary without entries. -/
def empty : Dict β := { entries := [] }

instance : EmptyCollection (Dict β) := ⟨empty⟩
instance : Inhabited (Dict β) := ⟨empty⟩

/-- The value stored under a key. -/
def find? (d : Dict β) (k : String) : Option β := Entries.find? k d.entries

/-- Whether a key is present. -/
def contains (d : Dict β) (k : String) : Bool := (d.find? k).isSome

/-- Stores a value under a key, instead of any earlier one. -/
def insert (d : Dict β) (k : String) (v : β) : Dict β :=
  { entries := Entries.insert k v d.entries, ascending := Entries.ascending_insert k v d.ascending }

/-- Stores a value under a key that has none yet; an earlier value stays. -/
def insertNew (d : Dict β) (k : String) (v : β) : Dict β :=
  if d.contains k then d else d.insert k v

/-- Removes a key. -/
def erase (d : Dict β) (k : String) : Dict β :=
  { entries := Entries.erase k d.entries, ascending := Entries.ascending_erase k d.ascending }

/-- The dictionary of a list of pairs; of a key that stands twice the last value counts. -/
def ofList (es : List (String × β)) : Dict β :=
  { entries := Entries.ofList es, ascending := Entries.ascending_ofList es }

/-- The keys, in ascending order. -/
def keys (d : Dict β) : List String := d.entries.map Prod.fst

/-- The number of entries. -/
def size (d : Dict β) : Nat := d.entries.length

/-- Whether there is no entry. -/
def isEmpty (d : Dict β) : Bool := d.entries.isEmpty

/-- Changes every value, dropping the entries for which nothing is given. -/
def filterMap {γ : Type v} (f : String → β → Option γ) (d : Dict β) : Dict γ :=
  { entries := d.entries.filterMap fun e => (f e.1 e.2).map (e.1, ·)
    ascending := by
      refine List.Pairwise.filterMap _ ?_ d.ascending
      intro a b hab a' ha' b' hb'
      simp only [Option.map_eq_some_iff] at ha' hb'
      obtain ⟨_, _, rfl⟩ := ha'
      obtain ⟨_, _, rfl⟩ := hb'
      exact hab }

instance [DecidableEq β] : DecidableEq (Dict β) := fun a b =>
  if h : a.entries = b.entries then
    isTrue (by cases a; cases b; subst h; rfl)
  else isFalse fun hab => h (hab ▸ rfl)

@[simp] theorem find?_empty (k : String) : (empty : Dict β).find? k = none := rfl

@[simp] theorem find?_insert (d : Dict β) (k j : String) (v : β) :
    (d.insert k v).find? j = if j = k then some v else d.find? j :=
  Entries.find?_insert k j v d.ascending

@[simp] theorem find?_erase (d : Dict β) (k j : String) :
    (d.erase k).find? j = if j = k then none else d.find? j :=
  Entries.find?_erase k j d.entries

@[simp] theorem find?_insertNew (d : Dict β) (k j : String) (v : β) :
    (d.insertNew k v).find? j = if j = k then some ((d.find? k).getD v) else d.find? j := by
  unfold insertNew contains
  cases h : d.find? k with
  | none => simp
  | some w =>
    by_cases hj : j = k
    · subst hj; simp [h]
    · simp [hj]

theorem contains_insertNew (d : Dict β) (k j : String) (v : β) :
    (d.insertNew k v).contains j = (j = k || d.contains j) := by
  by_cases hj : j = k <;> simp [contains, hj]

theorem insertNew_of_contains {d : Dict β} {k : String} (h : d.contains k = true) (v : β) :
    d.insertNew k v = d := by
  unfold insertNew
  rw [if_pos h]

/-- Look-ups after every value was changed. -/
@[simp] theorem find?_filterMap {γ : Type v} (f : String → β → Option γ) (d : Dict β)
    (j : String) : (d.filterMap f).find? j = (d.find? j).bind (f j) :=
  Entries.find?_filterMap f j d.ascending

theorem mem_entries_iff (d : Dict β) {k : String} {v : β} :
    (k, v) ∈ d.entries ↔ d.find? k = some v :=
  Entries.mem_iff_find? d.ascending

/-- Dictionaries with equal look-ups are equal. -/
theorem ext_find? {d e : Dict β} (h : ∀ k, d.find? k = e.find? k) : d = e := by
  cases d with | mk es hes =>
  cases e with | mk fs hfs =>
  have : es = fs := Entries.ext_find? hes hfs h
  subst this
  rfl

/-- The keys are listed in strictly ascending order. -/
theorem keys_pairwise (d : Dict β) : d.keys.Pairwise (· < ·) :=
  List.pairwise_map.2 d.ascending

end Dict

/-! ## Sets of text -/

/-- A finite set of texts. -/
abbrev TextSet := Dict Unit

namespace TextSet

/-- The set with one text more. -/
def add (s : TextSet) (t : String) : TextSet := s.insert t ()

/-- The members, in ascending order. -/
def toList (s : TextSet) : List String := s.keys

theorem contains_add (s : TextSet) (t u : String) :
    (s.add t).contains u = (u = t || s.contains u) := by
  by_cases h : u = t <;> simp [add, Dict.contains, h]

theorem contains_erase (s : TextSet) (t u : String) :
    (Dict.erase s t).contains u = (u ≠ t && s.contains u) := by
  by_cases h : u = t <;> simp [Dict.contains, h]

theorem mem_toList_iff (s : TextSet) (t : String) : t ∈ s.toList ↔ s.contains t = true := by
  simp only [toList, Dict.keys, List.mem_map, Prod.exists, Dict.contains, Option.isSome_iff_exists]
  constructor
  · rintro ⟨t, u, h, rfl⟩
    exact ⟨u, (s.mem_entries_iff).1 h⟩
  · rintro ⟨u, h⟩
    exact ⟨t, u, (s.mem_entries_iff).2 h, rfl⟩

theorem eq_empty_of_isEmpty {s : TextSet} (h : s.isEmpty = true) : s = ∅ := by
  obtain ⟨es, hes⟩ := s
  have : es = [] := by simpa [Dict.isEmpty] using h
  subst this
  rfl

end TextSet

end Switchboard
