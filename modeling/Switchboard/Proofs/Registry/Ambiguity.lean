/-
# Switchboard.Proofs.Registry.Ambiguity -- when groups can be registered together

A registry compares a new method with one other only, the first that came to its destination. As
being the same handler is an equivalence, this is as good as comparing all pairs. The invariant is
`Registry.Holds`: a registry that has taken in some methods holds for each destination the first
of them, and each of them is the same handler as that one. Registering one method either keeps it
or fails, and then the method is the first that disagrees.

What `Registration` says of a list of groups follows from the invariant at the end: which lists
can be registered, what the registry holds then, that the order of the groups does not matter, and
that registering a group once more changes nothing.
-/

import Mathlib.Data.List.Basic
import Switchboard.Registry

namespace Switchboard

namespace Registry

variable {σ : Type} {r : Registry σ} {mapping : Mapping σ} {es fs : List (String × Method σ)}
  {gs : List (Group σ)} {g : Group σ}

/-! ## Methods that agree -/

/-- The methods of some groups that are to be registered, with their destinations, in the order of
their registration. -/
def mappings (mapping : Mapping σ) (gs : List (Group σ)) : List (String × Method σ) :=
  gs.flatMap (mapped mapping)

theorem mem_mappings_iff {d : String} {m : Method σ} :
    (d, m) ∈ mappings mapping gs ↔ ∃ g ∈ gs, m ∈ g.methods ∧ mapping m g = some d := by
  simp only [mappings, mapped, List.mem_flatMap, List.mem_filterMap, Option.map_eq_some_iff]
  constructor
  · rintro ⟨g, hg, m', hm', d', hd', heq⟩
    cases heq
    exact ⟨g, hg, hm', hd'⟩
  · rintro ⟨g, hg, hm, hd⟩
    exact ⟨g, hg, m, hm, d, hd, rfl⟩

/-- Any two methods that go to one destination are the same handler. -/
def Unambiguous (es : List (String × Method σ)) : Prop :=
  ∀ a ∈ es, ∀ b ∈ es, a.1 = b.1 → a.2.info.isSame b.2.info = true

/-- A method is the same handler as the first that goes to its destination. -/
def Agrees (es : List (String × Method σ)) (e : String × Method σ) : Prop :=
  ∃ first, Entries.find? e.1 es = some first ∧ first.info.isSame e.2.info = true

/-- The first of some methods that is not the same handler as the first that goes to its
destination, and the error that names both. -/
def FirstClash (es : List (String × Method σ)) (error : BusError) : Prop :=
  ∃ before d m after first, es = before ++ (d, m) :: after ∧ (∀ e ∈ before, Agrees before e) ∧
    Entries.find? d before = some first ∧ first.info.isSame m.info = false ∧
    error = .ambiguousMapping d first.info.label m.info.label

theorem Agrees.append {e : String × Method σ} (h : Agrees es e) (fs : List (String × Method σ)) :
    Agrees (es ++ fs) e := by
  obtain ⟨first, hfirst, hsame⟩ := h
  exact ⟨first, by rw [Entries.find?_append, hfirst]; rfl, hsame⟩

theorem FirstClash.append {error : BusError} (h : FirstClash es error)
    (fs : List (String × Method σ)) : FirstClash (es ++ fs) error := by
  obtain ⟨before, d, m, after, first, rfl, hbefore, hfirst, hother, rfl⟩ := h
  exact ⟨before, d, m, after ++ fs, first, by simp, hbefore, hfirst, hother, rfl⟩

/-- To agree with the first is to agree with all. -/
theorem unambiguous_iff_agrees : Unambiguous es ↔ ∀ e ∈ es, Agrees es e := by
  constructor
  · intro h e he
    obtain ⟨first, hfirst⟩ := Entries.exists_find?_of_mem he
    exact ⟨first, hfirst, h (e.1, first) (Entries.mem_of_find? hfirst) e he rfl⟩
  · intro h a ha b hb hab
    obtain ⟨first, hfirst, hsame⟩ := h a ha
    obtain ⟨first', hfirst', hsame'⟩ := h b hb
    rw [← hab, hfirst] at hfirst'
    cases hfirst'
    exact MethodInfo.isSame_trans (MethodInfo.isSame_symm hsame) hsame'

theorem FirstClash.not_unambiguous {error : BusError} (h : FirstClash es error) :
    ¬Unambiguous es := by
  obtain ⟨before, d, m, after, first, rfl, _, hfirst, hother, _⟩ := h
  intro hall
  have hmem : (d, first) ∈ before ++ (d, m) :: after :=
    List.mem_append_left _ (Entries.mem_of_find? hfirst)
  have hsame := hall (d, first) hmem (d, m) (by simp) rfl
  rw [hother] at hsame
  cases hsame

/-! ## What a registry holds -/

/-- A registry has taken in some methods, all of which agree: it holds the first one for each
destination, and nothing else. -/
structure Holds (r : Registry σ) (es : List (String × Method σ)) : Prop where
  get?_eq : ∀ d, r.get? d = (Entries.find? d es).map fun m => m.mappedTo d
  agrees : ∀ e ∈ es, Agrees es e

theorem holds_empty : (empty : Registry σ).Holds [] where
  get?_eq _ := rfl
  agrees := nofun

theorem registerAt_of_absent {d : String} (h : r.get? d = none) (m : Method σ) :
    r.registerAt d m = .ok { r with handlers := r.handlers.insert d (m.mappedTo d) } := by
  unfold registerAt
  rw [show r.handlers.find? d = none from h]

theorem registerAt_of_present {d : String} {first : Method σ}
    (h : r.get? d = some (first.mappedTo d)) (m : Method σ) :
    r.registerAt d m = if first.info.isSame m.info then .ok r
      else .error (.ambiguousMapping d first.info.label m.info.label) := by
  unfold registerAt
  rw [show r.handlers.find? d = some (first.mappedTo d) from h]
  rfl

/-- Registering one more method keeps the invariant, or else the method is the first that does not
agree. -/
theorem Holds.registerAt (h : r.Holds es) (d : String) (m : Method σ) :
    (∃ r', r.registerAt d m = .ok r' ∧ r'.Holds (es ++ [(d, m)])) ∨
      ∃ error, r.registerAt d m = .error error ∧ FirstClash (es ++ [(d, m)]) error := by
  cases hfirst : Entries.find? d es with
  | none =>
      have habsent : r.get? d = none := by rw [h.get?_eq, hfirst]; rfl
      refine .inl ⟨_, registerAt_of_absent habsent m, ?_, ?_⟩
      · intro d'
        show (r.handlers.insert d (m.mappedTo d)).find? d' = _
        rw [Dict.find?_insert, Entries.find?_append]
        by_cases hd : d' = d
        · rw [hd, if_pos rfl, hfirst]
          simp [Entries.find?]
        · rw [if_neg hd]
          show r.get? d' = _
          rw [h.get?_eq]
          simp [Entries.find?, hd]
      · intro e he
        rcases List.mem_append.1 he with he | he
        · exact (h.agrees e he).append _
        · -- The new method is itself the first that goes to its destination.
          rw [List.mem_singleton.1 he]
          refine ⟨m, ?_, MethodInfo.isSame_refl _⟩
          rw [Entries.find?_append, hfirst]
          simp [Entries.find?]
  | some first =>
      have hpresent : r.get? d = some (first.mappedTo d) := by rw [h.get?_eq, hfirst]; rfl
      rw [registerAt_of_present hpresent]
      cases hsame : first.info.isSame m.info with
      | true =>
          refine .inl ⟨r, rfl, ?_, ?_⟩
          · intro d'
            rw [h.get?_eq, Entries.find?_append]
            by_cases hd : d' = d
            · rw [hd, hfirst]
              rfl
            · simp [Entries.find?, hd]
          · intro e he
            rcases List.mem_append.1 he with he | he
            · exact (h.agrees e he).append _
            · rw [List.mem_singleton.1 he]
              exact Agrees.append (e := (d, m)) ⟨first, hfirst, hsame⟩ _
      | false =>
          exact .inr ⟨_, rfl, es, d, m, [], first, rfl, h.agrees, hfirst, hsame, rfl⟩

theorem Holds.registerAll (h : r.Holds es) (fs : List (String × Method σ)) :
    (∃ r', r.registerAll fs = .ok r' ∧ r'.Holds (es ++ fs)) ∨
      ∃ error, r.registerAll fs = .error error ∧ FirstClash (es ++ fs) error := by
  induction fs generalizing r es with
  | nil => exact .inl ⟨r, rfl, by rwa [List.append_nil]⟩
  | cons f fs ih =>
      obtain ⟨d, m⟩ := f
      unfold Registry.registerAll
      rw [show es ++ (d, m) :: fs = es ++ [(d, m)] ++ fs by simp]
      rcases h.registerAt d m with ⟨r', hr', hholds⟩ | ⟨error, herror, hclash⟩
      · rw [hr']
        exact ih hholds
      · rw [herror]
        exact .inr ⟨error, rfl, hclash.append fs⟩

theorem Holds.registerGroups (h : r.Holds es) (mapping : Mapping σ) (gs : List (Group σ)) :
    (∃ r', r.registerGroups mapping gs = .ok r' ∧ r'.Holds (es ++ mappings mapping gs)) ∨
      ∃ error, r.registerGroups mapping gs = .error error ∧
        FirstClash (es ++ mappings mapping gs) error := by
  induction gs generalizing r es with
  | nil => exact .inl ⟨r, rfl, by simpa [mappings] using h⟩
  | cons g gs ih =>
      unfold Registry.registerGroups register
      rw [show es ++ mappings mapping (g :: gs) = es ++ mapped mapping g ++ mappings mapping gs by
        simp [mappings]]
      rcases h.registerAll (mapped mapping g) with ⟨r', hr', hholds⟩ | ⟨error, herror, hclash⟩
      · rw [hr']
        -- The exception handlers that are added now are no handlers of destinations.
        exact ih ⟨hholds.get?_eq, hholds.agrees⟩
      · rw [herror]
        exact .inr ⟨error, rfl, hclash.append _⟩

/-- What is taken in already may come again. -/
theorem Holds.registerAll_of_mem (h : r.Holds es) (hfs : ∀ f ∈ fs, f ∈ es) :
    r.registerAll fs = .ok r := by
  induction fs with
  | nil => rfl
  | cons f fs ih =>
      obtain ⟨d, m⟩ := f
      obtain ⟨first, hfirst, hsame⟩ := h.agrees (d, m) (hfs _ List.mem_cons_self)
      have hpresent : r.get? d = some (first.mappedTo d) := by rw [h.get?_eq, hfirst]; rfl
      unfold Registry.registerAll
      rw [registerAt_of_present hpresent, if_pos hsame]
      exact ih fun f hf => hfs f (List.mem_cons_of_mem _ hf)

/-! ## Exception handlers -/

theorem exceptionHandlers_registerAll {r' : Registry σ} (h : r.registerAll fs = .ok r') :
    r'.exceptionHandlers = r.exceptionHandlers := by
  induction fs generalizing r with
  | nil =>
      cases h
      rfl
  | cons f fs ih =>
      obtain ⟨d, m⟩ := f
      unfold registerAll at h
      split at h
      · next r₁ hr₁ =>
          rw [ih h]
          unfold registerAt at hr₁
          split at hr₁
          · cases hr₁
            rfl
          · dsimp only at hr₁
            split at hr₁
            · cases hr₁
              rfl
            · cases hr₁
      · cases h

/-- The exception handlers of groups are added after those that are there; an owner that has some
keeps them. -/
theorem exceptionHandlers_registerGroups {r' : Registry σ}
    (h : r.registerGroups mapping gs = .ok r') :
    r'.exceptionHandlers =
      gs.foldl (fun d g => d.insertNew g.owner g.exceptionHandlers) r.exceptionHandlers := by
  induction gs generalizing r with
  | nil =>
      cases h
      rfl
  | cons g gs ih =>
      unfold registerGroups register at h
      split at h
      · next r₂ hr₂ =>
          split at hr₂
          · next r₁ hr₁ =>
              cases hr₂
              rw [ih h]
              show gs.foldl _ (r₁.exceptionHandlers.insertNew _ _) = _
              rw [exceptionHandlers_registerAll hr₁]
              rfl
          · cases hr₂
      · cases h

/-- Every owner of a group that was registered has exception handlers, if only an empty list. -/
theorem contains_owner {r' : Registry σ} (h : r.registerGroups mapping gs = .ok r') (hg : g ∈ gs) :
    r'.exceptionHandlers.contains g.owner = true := by
  have hfold : ∀ (ks : List (Group σ)) (d : Dict (List (ExceptionHandler σ))),
      d.contains g.owner = true ∨ g ∈ ks →
        (ks.foldl (fun d k => d.insertNew k.owner k.exceptionHandlers) d).contains g.owner =
          true := by
    intro ks
    induction ks with
    | nil =>
        intro d hd
        exact hd.resolve_right List.not_mem_nil
    | cons k ks ih =>
        intro d hd
        apply ih
        rw [Dict.contains_insertNew, Bool.or_eq_true, decide_eq_true_eq]
        rcases hd with hd | hd
        · exact .inl (.inr hd)
        · rcases List.mem_cons.1 hd with rfl | hd
          · exact .inl (.inl rfl)
          · exact .inr hd
  rw [exceptionHandlers_registerGroups h]
  exact hfold gs _ (.inr hg)

/-! ## Registering groups -/

/-- What holds when some groups are registered in order. -/
structure Registration (mapping : Mapping σ) (gs : List (Group σ)) : Prop where
  /-- They can be registered just when any two methods that go to one destination are the same
  handler. -/
  ok_iff : (∃ r, ofGroups mapping gs = .ok r) ↔ Unambiguous (mappings mapping gs)
  /-- Else the first method is refused that is not the same handler as the first one that goes to
  its destination. -/
  refused : ¬Unambiguous (mappings mapping gs) →
    ∃ error, ofGroups mapping gs = .error error ∧ FirstClash (mappings mapping gs) error
  /-- A destination has a handler just when a method goes there. -/
  present_iff : ∀ r, ofGroups mapping gs = .ok r → ∀ d,
    (∃ m, r.get? d = some m) ↔ ∃ g ∈ gs, ∃ m ∈ g.methods, mapping m g = some d
  /-- The handler is the first such method, and knows its destination. -/
  stored : ∀ r, ofGroups mapping gs = .ok r → ∀ d m, r.get? d = some m →
    m.info.destination = d ∧ ∃ first, Entries.find? d (mappings mapping gs) = some first ∧
      m = first.mappedTo d ∧ ∃ g ∈ gs, first ∈ g.methods ∧ mapping first g = some d
  /-- In any other order they can be registered as well, with the same destinations and with the
  same handlers there. -/
  reordered : ∀ gs', gs.Perm gs' →
    ((∃ r, ofGroups mapping gs = .ok r) ↔ ∃ r, ofGroups mapping gs' = .ok r) ∧
    ∀ r r', ofGroups mapping gs = .ok r → ofGroups mapping gs' = .ok r' → ∀ d,
      ((∃ m, r.get? d = some m) ↔ ∃ m, r'.get? d = some m) ∧
      ∀ m m', r.get? d = some m → r'.get? d = some m' → m.info.isSame m'.info = true
  /-- To register one of them once more changes nothing. -/
  again : ∀ r, ofGroups mapping gs = .ok r → ∀ g ∈ gs, r.register mapping g = .ok r

theorem holds_or_clash (mapping : Mapping σ) (gs : List (Group σ)) :
    (∃ r, ofGroups mapping gs = .ok r ∧ r.Holds (mappings mapping gs)) ∨
      ∃ error, ofGroups mapping gs = .error error ∧ FirstClash (mappings mapping gs) error :=
  holds_empty.registerGroups mapping gs

theorem holds_of_ofGroups (h : ofGroups mapping gs = .ok r) : r.Holds (mappings mapping gs) := by
  rcases holds_or_clash mapping gs with ⟨r', hr', hholds⟩ | ⟨_, herror, _⟩
  · rw [h] at hr'
    cases hr'
    exact hholds
  · rw [h] at herror
    cases herror

theorem ofGroups_ok_iff :
    (∃ r, ofGroups mapping gs = .ok r) ↔ Unambiguous (mappings mapping gs) := by
  constructor
  · rintro ⟨r, hr⟩
    exact unambiguous_iff_agrees.2 (holds_of_ofGroups hr).agrees
  · intro hall
    rcases holds_or_clash mapping gs with ⟨r, hr, _⟩ | ⟨_, _, hclash⟩
    · exact ⟨r, hr⟩
    · exact absurd hall hclash.not_unambiguous

theorem Holds.present_iff (h : r.Holds es) (d : String) :
    (∃ m, r.get? d = some m) ↔ ∃ m, (d, m) ∈ es := by
  rw [h.get?_eq]
  constructor
  · rintro ⟨_, hm⟩
    obtain ⟨first, hfirst, _⟩ := Option.map_eq_some_iff.1 hm
    exact ⟨first, Entries.mem_of_find? hfirst⟩
  · rintro ⟨m, hm⟩
    obtain ⟨first, hfirst⟩ := Entries.exists_find?_of_mem hm
    exact ⟨first.mappedTo d, by rw [hfirst]; rfl⟩

theorem Holds.stored (h : r.Holds es) {d : String} {m : Method σ} (hm : r.get? d = some m) :
    ∃ first, Entries.find? d es = some first ∧ m = first.mappedTo d := by
  rw [h.get?_eq] at hm
  obtain ⟨first, hfirst, rfl⟩ := Option.map_eq_some_iff.1 hm
  exact ⟨first, hfirst, rfl⟩

/-- Registries that have taken in the same methods, in whatever order, have the same handlers. -/
theorem Holds.isSame {r' : Registry σ} (h : r.Holds es) (h' : r'.Holds fs)
    (hmem : ∀ e, e ∈ es ↔ e ∈ fs) {d : String} {m m' : Method σ} (hm : r.get? d = some m)
    (hm' : r'.get? d = some m') : m.info.isSame m'.info = true := by
  obtain ⟨first, hfirst, rfl⟩ := h.stored hm
  obtain ⟨first', hfirst', rfl⟩ := h'.stored hm'
  have hall := unambiguous_iff_agrees.2 h.agrees
  exact hall (d, first) (Entries.mem_of_find? hfirst) (d, first')
    ((hmem _).2 (Entries.mem_of_find? hfirst')) rfl

theorem mem_mappings_of_perm {gs' : List (Group σ)} (h : gs.Perm gs') (e : String × Method σ) :
    e ∈ mappings mapping gs ↔ e ∈ mappings mapping gs' :=
  (h.flatMap_right _).mem_iff

/-- Registering groups does what it should for every list of groups and every mapping. -/
theorem registration_ofGroups (mapping : Mapping σ) (gs : List (Group σ)) :
    Registration mapping gs := by
  refine
    { ok_iff := ofGroups_ok_iff, refused := ?_, present_iff := ?_, stored := ?_, reordered := ?_
      again := ?_ }
  · intro hnot
    rcases holds_or_clash mapping gs with ⟨r, hr, _⟩ | hclash
    · exact absurd (ofGroups_ok_iff.1 ⟨r, hr⟩) hnot
    · exact hclash
  · intro r hr d
    rw [(holds_of_ofGroups hr).present_iff]
    constructor
    · rintro ⟨m, hm⟩
      obtain ⟨g, hg, hmem, hd⟩ := mem_mappings_iff.1 hm
      exact ⟨g, hg, m, hmem, hd⟩
    · rintro ⟨g, hg, m, hmem, hd⟩
      exact ⟨m, mem_mappings_iff.2 ⟨g, hg, hmem, hd⟩⟩
  · intro r hr d m hm
    obtain ⟨first, hfirst, rfl⟩ := (holds_of_ofGroups hr).stored hm
    exact ⟨rfl, first, hfirst, rfl, mem_mappings_iff.1 (Entries.mem_of_find? hfirst)⟩
  · intro gs' hperm
    have hmem : ∀ e, e ∈ mappings mapping gs ↔ e ∈ mappings mapping gs' :=
      mem_mappings_of_perm hperm
    refine ⟨?_, ?_⟩
    · rw [ofGroups_ok_iff, ofGroups_ok_iff]
      unfold Unambiguous
      simp only [hmem]
    · intro r r' hr hr' d
      have hholds := holds_of_ofGroups hr
      have hholds' := holds_of_ofGroups hr'
      refine ⟨?_, fun m m' => hholds.isSame hholds' hmem⟩
      rw [hholds.present_iff, hholds'.present_iff]
      simp only [hmem]
  · intro r hr g hg
    have hmem : ∀ f ∈ mapped mapping g, f ∈ mappings mapping gs :=
      fun f hf => List.mem_flatMap.2 ⟨g, hg, hf⟩
    unfold register
    rw [(holds_of_ofGroups hr).registerAll_of_mem hmem]
    dsimp only
    rw [Dict.insertNew_of_contains (contains_owner hr hg)]

end Registry

end Switchboard
