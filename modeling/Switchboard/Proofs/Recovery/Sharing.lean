/-
# Switchboard.Proofs.Recovery.Sharing -- one for each owner, however many ask at once

Between the look of a call that finds nothing and its offer any number of other calls may look,
make something and offer it, for the same owner or for others. All the same, every call of an
owner gives the same, and `Shared` collects this and what else holds after any run of the machine
(`shared_of_run?`).

Two facts carry it. The first is that things only grow (`Grows`): owners keep what they have and
calls only move on, each from one stage to a later one. So a call looks once, makes something at
most once, and only after it found nothing. The second is the invariant `Sound`: what an owner has
was made and offered by a call of this owner, and a call that is over gave what its owner has. Each
is proved for one event, by the list of everything that an event can do (`after?_eq_some`), and
then for a run.
-/

import Mathlib.Data.Finset.Card
import Mathlib.Data.Finset.Dedup
import Switchboard.Recovery.Calls

namespace Switchboard

universe u

/-! ## Counting the keys of a dictionary -/

namespace Dict

variable {β : Type u}

theorem mem_keys_iff (d : Dict β) {k : String} : k ∈ d.keys ↔ ∃ v, d.find? k = some v := by
  simp only [keys, List.mem_map, Prod.exists]
  constructor
  · rintro ⟨_, v, hmem, rfl⟩
    exact ⟨v, d.mem_entries_iff.1 hmem⟩
  · rintro ⟨v, hv⟩
    exact ⟨k, v, d.mem_entries_iff.2 hv, rfl⟩

/-- The size of a dictionary is the number of its keys. -/
theorem size_eq_card (d : Dict β) : d.size = d.keys.toFinset.card := by
  have hnodup : d.keys.Nodup := by
    apply d.keys_pairwise.imp
    rintro k _ hlt rfl
    exact String.lt_irrefl k hlt
  rw [List.toFinset_card_of_nodup hnodup, keys, List.length_map]
  rfl

end Dict

/-! ## Stages -/

/-- How many of its parts a call has behind it. -/
def CallStage.rank {ρ : Type u} : CallStage ρ → Nat
  | called => 0
  | missed => 1
  | made _ => 2
  | gave _ => 3

namespace Calls

variable {ρ : Type u} {s t : Calls ρ} {e : Event ρ} {es fs : List (Event ρ)} {c : Call ρ}
  {i j : Nat} {owner : String} {r : ρ}

theorem getElem?_moveOn (h : s.calls[i]? = some c) (owner : String) (stage : CallStage ρ)
    (j : Nat) : (s.moveOn i owner stage).calls[j]? =
      if j = i then some ⟨owner, stage⟩ else s.calls[j]? := by
  obtain ⟨hi, _⟩ := List.getElem?_eq_some_iff.1 h
  show (s.calls.set i ⟨owner, stage⟩)[j]? = _
  rw [List.getElem?_set]
  by_cases hij : i = j
  · subst hij
    simp [hi]
  · simp [hij, Ne.symm hij]

/-! ## What events can do -/

/-- A call that looks is over if its owner has something, and has missed if not. -/
theorem look_eq_some (h : s.after? (.look i) = some t) :
    ∃ owner, s.calls[i]? = some ⟨owner, .called⟩ ∧
      ((∃ r, s.cache.look? owner = some r ∧ t = s.moveOn i owner (.gave r)) ∨
        s.cache.look? owner = none ∧ t = s.moveOn i owner .missed) := by
  simp only [after?] at h
  split at h
  · next owner hcall =>
      split at h
      · next r hr =>
          cases h
          exact ⟨owner, hcall, .inl ⟨r, hr, rfl⟩⟩
      · next hnone =>
          cases h
          exact ⟨owner, hcall, .inr ⟨hnone, rfl⟩⟩
  · cases h

/-- Only a call that has missed makes something. -/
theorem create_eq_some (h : s.after? (.create i r) = some t) :
    ∃ owner, s.calls[i]? = some ⟨owner, .missed⟩ ∧ t = s.moveOn i owner (.made r) := by
  simp only [after?] at h
  split at h
  · next owner hcall =>
      cases h
      exact ⟨owner, hcall, rfl⟩
  · cases h

/-- A call that offers what it made is over with what its owner has then. -/
theorem keep_eq_some (h : s.after? (.keep i) = some t) :
    ∃ owner r, s.calls[i]? = some ⟨owner, .made r⟩ ∧
      t = { s with cache := (s.cache.keep owner r).2 }.moveOn i owner
        (.gave ((s.cache.look? owner).getD r)) := by
  simp only [after?] at h
  split at h
  · next owner r hcall =>
      cases h
      refine ⟨owner, r, hcall, ?_⟩
      rw [← OwnerCache.keep_fst]
  · cases h

/-- Everything that an event can do. -/
theorem after?_eq_some (h : s.after? e = some t) :
    (∃ owner, e = .call owner ∧ t = { s with calls := s.calls ++ [{ owner }] }) ∨
    (∃ i owner r, e = .look i ∧ s.calls[i]? = some ⟨owner, .called⟩ ∧
      s.cache.look? owner = some r ∧ t = s.moveOn i owner (.gave r)) ∨
    (∃ i owner, e = .look i ∧ s.calls[i]? = some ⟨owner, .called⟩ ∧
      s.cache.look? owner = none ∧ t = s.moveOn i owner .missed) ∨
    (∃ i owner r, e = .create i r ∧ s.calls[i]? = some ⟨owner, .missed⟩ ∧
      t = s.moveOn i owner (.made r)) ∨
    (∃ i owner r, e = .keep i ∧ s.calls[i]? = some ⟨owner, .made r⟩ ∧
      t = { s with cache := (s.cache.keep owner r).2 }.moveOn i owner
        (.gave ((s.cache.look? owner).getD r))) := by
  cases e with
  | call owner =>
      cases h
      exact .inl ⟨owner, rfl, rfl⟩
  | look i =>
      obtain ⟨owner, hcall, ⟨r, hr, ht⟩ | ⟨hnone, ht⟩⟩ := look_eq_some h
      · exact .inr (.inl ⟨i, owner, r, rfl, hcall, hr, ht⟩)
      · exact .inr (.inr (.inl ⟨i, owner, rfl, hcall, hnone, ht⟩))
  | create i r =>
      obtain ⟨owner, hcall, ht⟩ := create_eq_some h
      exact .inr (.inr (.inr (.inl ⟨i, owner, r, rfl, hcall, ht⟩)))
  | keep i =>
      obtain ⟨owner, r, hcall, ht⟩ := keep_eq_some h
      exact .inr (.inr (.inr (.inr ⟨i, owner, r, rfl, hcall, ht⟩)))

/-! ## Runs -/

theorem run?_cons :
    s.run? (e :: es) = some t ↔ ∃ s', s.after? e = some s' ∧ s'.run? es = some t := by
  simp [run?, Option.bind_eq_some_iff]

theorem run?_append :
    s.run? (es ++ fs) = some t ↔ ∃ s', s.run? es = some s' ∧ s'.run? fs = some t := by
  induction es generalizing s with
  | nil => simp [run?]
  | cons e es ih =>
      rw [List.cons_append, run?_cons]
      constructor
      · rintro ⟨b, hb, hrun⟩
        obtain ⟨b', hb', hrest⟩ := ih.1 hrun
        exact ⟨b', run?_cons.2 ⟨b, hb, hb'⟩, hrest⟩
      · rintro ⟨b', hb', hrest⟩
        obtain ⟨b, hb, hrun⟩ := run?_cons.1 hb'
        exact ⟨b, hb, ih.2 ⟨b', hrun, hrest⟩⟩

/-! ## What only grows -/

/-- A later state: owners have kept what they had, and calls have only moved on. -/
structure Grows (s t : Calls ρ) : Prop where
  /-- What an owner has stays. -/
  kept : ∀ owner r, s.cache.look? owner = some r → t.cache.look? owner = some r
  /-- A call stays where it is or gets to a later stage, for the same owner. -/
  calls : ∀ (i : Nat) c, s.calls[i]? = some c → ∃ c', t.calls[i]? = some c' ∧
    c'.owner = c.owner ∧ (c' = c ∨ c.stage.rank < c'.stage.rank)

theorem Grows.refl (s : Calls ρ) : Grows s s :=
  ⟨fun _ _ h => h, fun _ c h => ⟨c, h, rfl, .inl rfl⟩⟩

theorem Grows.trans {s' : Calls ρ} (h : Grows s s') (h' : Grows s' t) : Grows s t := by
  refine ⟨?_, ?_⟩
  · intro owner r hr
    exact h'.kept owner r (h.kept owner r hr)
  · intro i c hc
    obtain ⟨c₁, hc₁, howner₁, hstage₁⟩ := h.calls i c hc
    obtain ⟨c₂, hc₂, howner₂, hstage₂⟩ := h'.calls i c₁ hc₁
    refine ⟨c₂, hc₂, howner₂.trans howner₁, ?_⟩
    rcases hstage₁ with rfl | hlt
    · exact hstage₂
    · rcases hstage₂ with rfl | hlt'
      · exact .inr hlt
      · exact .inr (by omega)

/-- A call that moves on gets to a later stage, and all other calls stay. -/
theorem grows_moveOn {stage : CallStage ρ} (hc : s.calls[i]? = some c)
    (hrank : c.stage.rank < stage.rank) : Grows s (s.moveOn i c.owner stage) := by
  refine ⟨fun _ _ h => h, ?_⟩
  intro j d hd
  rw [getElem?_moveOn hc]
  by_cases hj : j = i
  · subst hj
    rw [hc] at hd
    cases hd
    exact ⟨_, if_pos rfl, rfl, .inr hrank⟩
  · exact ⟨d, by rw [if_neg hj, hd], rfl, .inl rfl⟩

/-- An offer takes nothing away from anybody. -/
theorem grows_keep (s : Calls ρ) (owner : String) (r : ρ) :
    Grows s { s with cache := (s.cache.keep owner r).2 } := by
  refine ⟨?_, fun _ c h => ⟨c, h, rfl, .inl rfl⟩⟩
  intro other r' hr'
  show (s.cache.keep owner r).2.look? other = some r'
  rw [OwnerCache.look?_keep]
  by_cases ho : other = owner
  · subst ho
    rw [if_pos rfl, hr']
    rfl
  · rw [if_neg ho, hr']

theorem grows_after? (h : s.after? e = some t) : Grows s t := by
  rcases after?_eq_some h with ⟨owner, -, rfl⟩ | ⟨i, owner, r, -, hcall, -, rfl⟩ |
    ⟨i, owner, -, hcall, -, rfl⟩ | ⟨i, owner, r, -, hcall, rfl⟩ | ⟨i, owner, r, -, hcall, rfl⟩
  · refine ⟨fun _ _ hr => hr, ?_⟩
    intro i c hc
    obtain ⟨hi, _⟩ := List.getElem?_eq_some_iff.1 hc
    exact ⟨c, (List.getElem?_append_left hi).trans hc, rfl, .inl rfl⟩
  · exact grows_moveOn hcall (by simp [CallStage.rank])
  · exact grows_moveOn hcall (by simp [CallStage.rank])
  · exact grows_moveOn hcall (by simp [CallStage.rank])
  · apply (grows_keep s owner r).trans
    exact grows_moveOn (c := ⟨owner, .made r⟩) hcall (by simp [CallStage.rank])

theorem grows_run? (h : s.run? es = some t) : Grows s t := by
  induction es generalizing s with
  | nil =>
      cases h
      exact Grows.refl _
  | cons e es ih =>
      obtain ⟨s', hs', hrun⟩ := run?_cons.1 h
      exact (grows_after? hs').trans (ih hrun)

/-! ## Who makes something -/

/-- Whoever makes something has looked and found nothing, and has offered nothing yet. -/
theorem rank_of_create (h : s.after? (.create i r) = some t) :
    (∃ c, s.calls[i]? = some c ∧ c.stage.rank = 1) ∧
      ∃ c, t.calls[i]? = some c ∧ c.stage.rank = 2 := by
  obtain ⟨owner, hcall, rfl⟩ := create_eq_some h
  exact ⟨⟨_, hcall, rfl⟩, ⟨owner, .made r⟩, by rw [getElem?_moveOn hcall, if_pos rfl], rfl⟩

/-- Whoever is not past the look has made nothing so far. -/
theorem not_mem_create_before (h : s.run? es = some t) (hc : t.calls[i]? = some c)
    (hrank : c.stage.rank ≤ 1) (r : ρ) : .create i r ∉ es := by
  intro hmem
  obtain ⟨before, after, rfl⟩ := List.append_of_mem hmem
  obtain ⟨s₁, -, hrest⟩ := run?_append.1 h
  obtain ⟨s₂, hcreate, hafter⟩ := run?_cons.1 hrest
  obtain ⟨c₂, hc₂, hrank₂⟩ := (rank_of_create hcreate).2
  obtain ⟨c', hc', -, hstage⟩ := (grows_run? hafter).calls i c₂ hc₂
  rw [hc] at hc'
  cases hc'
  rcases hstage with rfl | hlt
  · omega
  · omega

/-- Whoever is past the look, and did not miss, makes nothing any more. -/
theorem not_mem_create_after (h : s.run? es = some t) (hc : s.calls[i]? = some c)
    (hrank : 2 ≤ c.stage.rank) (r : ρ) : .create i r ∉ es := by
  intro hmem
  obtain ⟨before, after, rfl⟩ := List.append_of_mem hmem
  obtain ⟨s₁, hbefore, hrest⟩ := run?_append.1 h
  obtain ⟨s₂, hcreate, -⟩ := run?_cons.1 hrest
  obtain ⟨c₁, hc₁, hrank₁⟩ := (rank_of_create hcreate).1
  obtain ⟨c₂, hc₂, -, hstage⟩ := (grows_run? hbefore).calls i c hc
  rw [hc₁] at hc₂
  cases hc₂
  rcases hstage with rfl | hlt
  · omega
  · omega

/-! ## What owners and calls have in common -/

/-- The owner that a call is for. -/
def owner? (s : Calls ρ) (i : Nat) : Option String := s.calls[i]?.map Call.owner

theorem Grows.owner? (h : Grows s t) (ho : s.owner? i = some owner) :
    t.owner? i = some owner := by
  obtain ⟨c, hc, rfl⟩ := Option.map_eq_some_iff.1 ho
  obtain ⟨c', hc', howner, -⟩ := h.calls i c hc
  rw [Calls.owner?, hc', Option.map_some, howner]

/-- How a call can have come to be where it is: it was there before, it is not far yet, it has just
made something, or it is over with what its owner has. -/
theorem call_of_after? (h : s.after? e = some t) (hc : t.calls[j]? = some c) :
    s.calls[j]? = some c ∨ c.stage.rank ≤ 1 ∨ (∃ r, e = .create j r ∧ c.stage = .made r) ∨
      ∃ r, c.stage = .gave r ∧ t.cache.look? c.owner = some r := by
  -- A call other than the one that moves is where it was.
  have hmoved : ∀ {i : Nat} {d : Call ρ} {owner : String} {stage : CallStage ρ},
      s.calls[i]? = some d → t.calls = (s.moveOn i owner stage).calls →
      s.calls[j]? = some c ∨ (j = i ∧ c = ⟨owner, stage⟩) := by
    intro i d owner stage hd ht
    rw [ht, getElem?_moveOn hd] at hc
    split at hc
    · next hj =>
        cases hc
        exact .inr ⟨hj, rfl⟩
    · exact .inl hc
  rcases after?_eq_some h with ⟨owner, -, rfl⟩ | ⟨i, owner, r, -, hcall, hr, ht⟩ |
    ⟨i, owner, -, hcall, -, ht⟩ | ⟨i, owner, r, rfl, hcall, ht⟩ | ⟨i, owner, r, -, hcall, ht⟩
  · by_cases hj : j < s.calls.length
    · rw [List.getElem?_append_left hj] at hc
      exact .inl hc
    · rw [List.getElem?_append_right (by omega), List.getElem?_singleton] at hc
      split at hc
      · cases hc
        exact .inr (.inl (Nat.zero_le 1))
      · cases hc
  · rcases hmoved hcall (congrArg Calls.calls ht) with hsame | ⟨-, rfl⟩
    · exact .inl hsame
    · subst ht
      exact .inr (.inr (.inr ⟨r, rfl, hr⟩))
  · rcases hmoved hcall (congrArg Calls.calls ht) with hsame | ⟨-, rfl⟩
    · exact .inl hsame
    · exact .inr (.inl (Nat.le_refl 1))
  · rcases hmoved hcall (congrArg Calls.calls ht) with hsame | ⟨rfl, rfl⟩
    · exact .inl hsame
    · exact .inr (.inr (.inl ⟨r, rfl, rfl⟩))
  · have hcalls : t.calls =
        (s.moveOn i owner (.gave ((s.cache.look? owner).getD r))).calls := by
      rw [ht]
      rfl
    rcases hmoved hcall hcalls with hsame | ⟨-, rfl⟩
    · exact .inl hsame
    · subst ht
      refine .inr (.inr (.inr ⟨_, rfl, ?_⟩))
      show (s.cache.keep owner r).2.look? owner = _
      rw [OwnerCache.look?_keep, if_pos rfl]

/-- How an owner can have come to have something: it had it before, or a call for it has just
offered what it had made. -/
theorem look?_of_after? (h : s.after? e = some t) (hr : t.cache.look? owner = some r) :
    s.cache.look? owner = some r ∨ ∃ i, e = .keep i ∧ s.calls[i]? = some ⟨owner, .made r⟩ := by
  rcases after?_eq_some h with ⟨_, -, rfl⟩ | ⟨_, _, _, -, -, -, rfl⟩ | ⟨_, _, -, -, -, rfl⟩ |
    ⟨_, _, _, -, -, rfl⟩ | ⟨i, other, r', rfl, hcall, rfl⟩
  · exact .inl hr
  · exact .inl hr
  · exact .inl hr
  · exact .inl hr
  · have hkept : (s.cache.keep other r').2.look? owner = some r := hr
    rw [OwnerCache.look?_keep] at hkept
    by_cases ho : owner = other
    · subst ho
      rw [if_pos rfl] at hkept
      cases hlook : s.cache.look? owner with
      | some first =>
          rw [hlook] at hkept
          exact .inl hkept
      | none =>
          rw [hlook] at hkept
          cases hkept
          exact .inr ⟨i, rfl, hcall⟩
    · rw [if_neg ho] at hkept
      exact .inl hkept

/-- What a state has to do with the events that led to it. -/
structure Sound (es : List (Event ρ)) (s : Calls ρ) : Prop where
  /-- What a call has in hands, it has made. -/
  made : ∀ (i : Nat) c r, s.calls[i]? = some c → c.stage = .made r → .create i r ∈ es
  /-- A call that is over gave what its owner has. -/
  gave : ∀ (i : Nat) c r, s.calls[i]? = some c → c.stage = .gave r →
    s.cache.look? c.owner = some r
  /-- What an owner has was made and offered by a call for this owner. -/
  origin : ∀ owner r, s.cache.look? owner = some r →
    ∃ i, s.owner? i = some owner ∧ .create i r ∈ es ∧ .keep i ∈ es

theorem sound_empty : Sound [] ({} : Calls ρ) where
  made := by
    intro i c r h
    cases h
  gave := by
    intro i c r h
    cases h
  origin := by
    intro owner r h
    cases h

theorem Sound.after? (h : Sound es s) (ht : s.after? e = some t) : Sound (es ++ [e]) t := by
  have hgrows := grows_after? ht
  refine { made := ?_, gave := ?_, origin := ?_ }
  · intro i c r hc hstage
    rcases call_of_after? ht hc with hsame | hrank | ⟨r', rfl, hmade⟩ | ⟨r', hgave, -⟩
    · exact List.mem_append_left _ (h.made i c r hsame hstage)
    · rw [hstage] at hrank
      exact absurd hrank (by simp [CallStage.rank])
    · rw [hstage] at hmade
      cases hmade
      simp
    · rw [hstage] at hgave
      cases hgave
  · intro i c r hc hstage
    rcases call_of_after? ht hc with hsame | hrank | ⟨r', -, hmade⟩ | ⟨r', hgave, hlook⟩
    · exact hgrows.kept _ _ (h.gave i c r hsame hstage)
    · rw [hstage] at hrank
      exact absurd hrank (by simp [CallStage.rank])
    · rw [hstage] at hmade
      cases hmade
    · rw [hstage] at hgave
      cases hgave
      exact hlook
  · intro owner r hr
    rcases look?_of_after? ht hr with hr | ⟨i, rfl, hcall⟩
    · obtain ⟨i, ho, hcreate, hkeep⟩ := h.origin owner r hr
      exact ⟨i, hgrows.owner? ho, List.mem_append_left _ hcreate, List.mem_append_left _ hkeep⟩
    · have ho : s.owner? i = some owner := by rw [Calls.owner?, hcall, Option.map_some]
      exact ⟨i, hgrows.owner? ho, List.mem_append_left _ (h.made i _ r hcall rfl), by simp⟩

theorem Sound.run? (h : Sound es s) (ht : s.run? fs = some t) : Sound (es ++ fs) t := by
  induction fs generalizing s es with
  | nil =>
      cases ht
      rw [List.append_nil]
      exact h
  | cons e fs ih =>
      obtain ⟨s', hs', hrun⟩ := run?_cons.1 ht
      have hrest := ih (h.after? hs') hrun
      rwa [List.append_assoc] at hrest

/-! ## How many owners have something -/

/-- The owners for which something was offered. -/
def served (es : List (Event ρ)) (s : Calls ρ) : List String :=
  es.filterMap fun e =>
    match e with
    | .keep i => s.owner? i
    | _ => none

theorem mem_served : owner ∈ served es s ↔ ∃ i, .keep i ∈ es ∧ s.owner? i = some owner := by
  rw [served, List.mem_filterMap]
  constructor
  · rintro ⟨e, he, ho⟩
    cases e with
    | keep i => exact ⟨i, he, ho⟩
    | call _ => cases ho
    | look _ => cases ho
    | create _ _ => cases ho
  · rintro ⟨i, he, ho⟩
    exact ⟨_, he, ho⟩

/-- Where something was offered for an owner, the owner has something. -/
theorem look?_of_keep (h : s.run? es = some t) (hmem : .keep i ∈ es)
    (ho : t.owner? i = some owner) : ∃ r, t.cache.look? owner = some r := by
  obtain ⟨before, after, rfl⟩ := List.append_of_mem hmem
  obtain ⟨s₁, -, hrest⟩ := run?_append.1 h
  obtain ⟨s₂, hkeep, hafter⟩ := run?_cons.1 hrest
  have hgrows := (grows_after? hkeep).trans (grows_run? hafter)
  obtain ⟨other, r, hcall, rfl⟩ := keep_eq_some hkeep
  have hother : s₁.owner? i = some other := by rw [Calls.owner?, hcall, Option.map_some]
  rw [hgrows.owner? hother] at ho
  cases ho
  refine ⟨_, (grows_run? hafter).kept _ ((s₁.cache.look? owner).getD r) ?_⟩
  show (s₁.cache.keep owner r).2.look? owner = _
  rw [OwnerCache.look?_keep, if_pos rfl]

theorem size_eq (h : ({} : Calls ρ).run? es = some s) :
    s.cache.size = (served es s).toFinset.card := by
  have hsound : Sound es s := sound_empty.run? h
  have hkeys : s.cache.byOwner.keys.toFinset = (served es s).toFinset := by
    ext owner
    rw [List.mem_toFinset, List.mem_toFinset, Dict.mem_keys_iff, mem_served]
    constructor
    · rintro ⟨r, hr⟩
      obtain ⟨i, ho, -, hkeep⟩ := hsound.origin owner r hr
      exact ⟨i, hkeep, ho⟩
    · rintro ⟨i, hkeep, ho⟩
      exact look?_of_keep h hkeep ho
  rw [OwnerCache.size, Dict.size_eq_card, hkeys]

/-! ## Calls by themselves -/

/-- The parts of a call that is not interrupted by others. -/
def parts (s : Calls ρ) (owner : String) (create : Unit → ρ) : List (Event ρ) :=
  let i := s.calls.length
  match s.cache.look? owner with
  | some _ => [.call owner, .look i]
  | none => [.call owner, .look i, .create i (create ()), .keep i]

/-- Such a call does in its parts what a call does in one piece. -/
theorem run?_parts (s : Calls ρ) (owner : String) (create : Unit → ρ) :
    s.run? (s.parts owner create) = some
      { cache := (s.cache.getOrCreate owner create).2
        calls := s.calls ++ [⟨owner, .gave (s.cache.getOrCreate owner create).1⟩] } := by
  unfold parts OwnerCache.getOrCreate
  cases hlook : s.cache.look? owner with
  | some r => simp [run?, after?, moveOn, hlook]
  | none => simp [run?, after?, moveOn, hlook]

/-- A call that is not over can go on, whatever the others do. -/
theorem goesOn (hc : s.calls[i]? = some c) :
    (c.stage = .called → ∃ t, s.after? (.look i) = some t) ∧
    (c.stage = .missed → ∀ r, ∃ t, s.after? (.create i r) = some t) ∧
    (∀ r, c.stage = .made r → ∃ t, s.after? (.keep i) = some t) := by
  obtain ⟨owner, stage⟩ := c
  refine ⟨?_, ?_, ?_⟩
  · rintro rfl
    cases hlook : s.cache.look? owner with
    | some r => exact ⟨s.moveOn i owner (.gave r), by simp [after?, hc, hlook]⟩
    | none => exact ⟨s.moveOn i owner .missed, by simp [after?, hc, hlook]⟩
  · rintro rfl r
    exact ⟨s.moveOn i owner (.made r), by simp [after?, hc]⟩
  · rintro r rfl
    exact ⟨_, by simp only [after?, hc]; rfl⟩

/-! ## All calls together -/

/-- What holds after some events, from an empty cache on, in whatever order calls went on. -/
structure Shared (es : List (Event ρ)) (s : Calls ρ) : Prop where
  /-- What an owner had at any time it still has. -/
  kept : ∀ before after t, es = before ++ after → ({} : Calls ρ).run? before = some t →
    ∀ owner r, t.cache.look? owner = some r → s.cache.look? owner = some r
  /-- Whenever a call was over, it gave what its owner has now; so all calls of an owner give the
  same. -/
  alike : ∀ before after t, es = before ++ after → ({} : Calls ρ).run? before = some t →
    ∀ (i : Nat) c r, t.calls[i]? = some c → c.stage = .gave r → s.cache.look? c.owner = some r
  /-- What an owner has was made by a call for this owner. -/
  own : ∀ owner r, s.cache.look? owner = some r →
    ∃ i, s.owner? i = some owner ∧ .create i r ∈ es ∧ .keep i ∈ es
  /-- Calls for different owners give different things, where everything that is made is new. -/
  apart : (∀ i j r, .create i r ∈ es → .create j r ∈ es → i = j) →
    ∀ (i j : Nat) c d r, s.calls[i]? = some c → s.calls[j]? = some d →
      c.stage = .gave r → d.stage = .gave r → c.owner = d.owner
  /-- There are as many things as there are owners for which something was offered. -/
  size : s.cache.size = (served es s).toFinset.card
  /-- A call whose look finds something makes nothing, neither then nor before. -/
  found : ∀ before i after t, es = before ++ .look i :: after →
    ({} : Calls ρ).run? before = some t → ∀ owner r, t.owner? i = some owner →
    t.cache.look? owner = some r → ∀ r', .create i r' ∉ es
  /-- No call makes something twice. -/
  once : ∀ before i r after, es = before ++ .create i r :: after →
    ∀ r', .create i r' ∉ before ∧ .create i r' ∉ after
  /-- A call that is not over can go on. -/
  unhindered : ∀ (i : Nat) c, s.calls[i]? = some c →
    (c.stage = .called → ∃ t, s.after? (.look i) = some t) ∧
    (c.stage = .missed → ∀ r, ∃ t, s.after? (.create i r) = some t) ∧
    (∀ r, c.stage = .made r → ∃ t, s.after? (.keep i) = some t)
  /-- A call that nobody interrupts does what a call in one piece does. -/
  alone : ∀ owner create, s.run? (s.parts owner create) = some
    { cache := (s.cache.getOrCreate owner create).2
      calls := s.calls ++ [⟨owner, .gave (s.cache.getOrCreate owner create).1⟩] }

theorem shared_of_run? (h : ({} : Calls ρ).run? es = some s) : Shared es s := by
  have hsound : Sound es s := sound_empty.run? h
  -- From any moment on things only grow.
  have hgrows : ∀ before after t, es = before ++ after →
      ({} : Calls ρ).run? before = some t → Grows t s := by
    rintro before after t rfl ht
    obtain ⟨t', ht', hrest⟩ := run?_append.1 h
    rw [ht] at ht'
    cases ht'
    exact grows_run? hrest
  refine
    { kept := fun before after t hes ht => (hgrows before after t hes ht).kept, alike := ?_
      own := hsound.origin, apart := ?_, size := size_eq h, found := ?_, once := ?_
      unhindered := fun i c hc => goesOn hc
      alone := fun owner create => run?_parts s owner create }
  · intro before after t hes ht i c r hc hgave
    have hthen : Sound before t := sound_empty.run? ht
    exact (hgrows before after t hes ht).kept _ _ (hthen.gave i c r hc hgave)
  · intro hnew i j c d r hc hd hgave hgave'
    obtain ⟨k, hk, hcreate, -⟩ := hsound.origin _ r (hsound.gave i c r hc hgave)
    obtain ⟨l, hl, hcreate', -⟩ := hsound.origin _ r (hsound.gave j d r hd hgave')
    -- Both owners have what the same call has made, and this call is for one owner.
    rw [hnew k l r hcreate hcreate', hl] at hk
    exact (Option.some.inj hk).symm
  · rintro before i after t rfl ht owner r ho hr r' hmem
    obtain ⟨t', ht', hrest⟩ := run?_append.1 h
    rw [ht] at ht'
    cases ht'
    obtain ⟨u, hlook, hafter⟩ := run?_cons.1 hrest
    obtain ⟨other, hcall, hfound⟩ := look_eq_some hlook
    have hother : other = owner := by
      rw [Calls.owner?, hcall] at ho
      exact Option.some.inj ho
    subst hother
    rcases hfound with ⟨found, -, rfl⟩ | ⟨hnone, -⟩
    · have hover : (t.moveOn i other (.gave found)).calls[i]? = some ⟨other, .gave found⟩ := by
        rw [getElem?_moveOn hcall, if_pos rfl]
      rcases List.mem_append.1 hmem with hbefore | hmem
      · exact not_mem_create_before ht hcall (by simp [CallStage.rank]) r' hbefore
      · rcases List.mem_cons.1 hmem with heq | hafter'
        · cases heq
        · exact not_mem_create_after hafter hover (by simp [CallStage.rank]) r' hafter'
    · rw [hr] at hnone
      cases hnone
  · rintro before i r after rfl r'
    obtain ⟨t, ht, hrest⟩ := run?_append.1 h
    obtain ⟨u, hcreate, hafter⟩ := run?_cons.1 hrest
    obtain ⟨⟨c, hc, hrank⟩, d, hd, hrank'⟩ := rank_of_create hcreate
    exact ⟨not_mem_create_before ht hc (by omega) r', not_mem_create_after hafter hd (by omega) r'⟩

/-- Two calls for one owner that both find nothing, a call for another owner in between, and a late
one. The second call is the first to offer what it has made. -/
def overlapping : List (Event Nat) :=
  [.call "Alpha", .call "Alpha", .call "Beta", .look 0, .look 1, .create 0 10, .create 1 11,
    .look 2, .keep 1, .create 2 12, .keep 0, .keep 2, .call "Alpha", .look 3]

/-- All calls for the first owner give what the second call made. -/
theorem shared_overlapping : ∃ s, ({} : Calls Nat).run? overlapping = some s ∧
    Shared overlapping s ∧ s.calls.map Call.stage = [.gave 11, .gave 11, .gave 12, .gave 11] ∧
    s.cache.size = 2 :=
  ⟨_, rfl, shared_of_run? rfl, rfl, rfl⟩

end Calls

end Switchboard
