/-
# Switchboard.Proofs.Subscriptions.Pairs -- the subscriptions as a set of pairs

The sessions are kept by method, yet a session is removed across all methods, and a method whose
last session goes is dropped in two different places. Seen from outside there is a set of pairs of a
session and a method, `Subscriptions.pairs`. Every call gives the answer that such a set would give
and does to the pairs what the call means (`Call.onPairs_pairs`), hence so does every history of
calls (`Call.all_pairs`).

That no method is kept without sessions cannot be seen from outside; it is an invariant of its own
(`Tidy`).
-/

import Mathlib.Data.Finset.Card
import Mathlib.Data.Finset.Dedup
import Switchboard.Subscriptions

namespace Switchboard

namespace Subscriptions

variable {s : Subscriptions} {session method : String}

/-! ## The pairs -/

/-- Pairs of a session and a method of notifications. -/
abbrev Pairs := Finset (String × String)

/-- The pairs that are bound. -/
def pairs (s : Subscriptions) : Pairs :=
  (s.byMethod.entries.flatMap fun e => e.2.toList.map fun session => (session, e.1)).toFinset

/-- A session is bound to a method just when the set that is kept for the method contains it. -/
theorem isBound_iff_entry : s.isBound session method = true ↔
    ∃ sessions, (method, sessions) ∈ s.byMethod.entries ∧ sessions.contains session = true := by
  rw [isBound_eq, sessionSet]
  simp only [Dict.mem_entries_iff]
  cases s.byMethod.find? method with
  | none => simp [Dict.contains, show (∅ : TextSet) = Dict.empty from rfl]
  | some sessions => simp

/-- Being bound is being one of the pairs. -/
@[simp] theorem mem_pairs : (session, method) ∈ s.pairs ↔ s.isBound session method = true := by
  rw [isBound_iff_entry]
  simp [pairs, TextSet.mem_toList_iff]

@[simp] theorem pairs_empty : empty.pairs = ∅ := rfl

/-- Binding inserts a pair. -/
theorem pairs_bind : (s.bind session method).2.pairs = insert (session, method) s.pairs := by
  ext ⟨t, n⟩
  simp [isBound_bind]

/-- Unbinding erases it. -/
theorem pairs_unbind : (s.unbind session method).2.pairs = s.pairs.erase (session, method) := by
  ext ⟨t, n⟩
  by_cases ht : t = session <;> simp [isBound_unbind, ht]

/-- Removing a session leaves the pairs of the others. -/
theorem pairs_removeSession :
    (s.removeSession session).2.pairs = s.pairs.filter fun p => p.1 ≠ session := by
  ext ⟨t, n⟩
  simp [isBound_removeSession, and_comm]

/-- The methods of a session are counted without repetition. -/
theorem removeSession_fst :
    (s.removeSession session).1 = (s.pairs.filter fun p => p.1 = session).card := by
  have hpairs : s.pairs.filter (fun p => p.1 = session) =
      ((s.byMethod.entries.filter fun e => e.2.contains session).map
        fun e => (session, e.1)).toFinset := by
    ext ⟨t, n⟩
    simp only [Finset.mem_filter, mem_pairs, List.mem_toFinset, List.mem_map, List.mem_filter,
      isBound_iff_entry]
    constructor
    · rintro ⟨⟨sessions, hentry, hin⟩, rfl⟩
      exact ⟨(n, sessions), ⟨hentry, hin⟩, rfl⟩
    · rintro ⟨⟨k, sessions⟩, ⟨hentry, hin⟩, heq⟩
      cases heq
      exact ⟨⟨sessions, hentry, hin⟩, rfl⟩
  have hnodup : ((s.byMethod.entries.filter fun e => e.2.contains session).map
      fun e => (session, e.1)).Nodup := by
    refine List.pairwise_map.2 ((s.byMethod.ascending.filter _).imp ?_)
    intro e f hlt heq
    have hkey : e.1 = f.1 := (Prod.mk.inj heq).2
    exact String.lt_irrefl _ (hkey ▸ hlt)
  rw [hpairs, List.toFinset_card_of_nodup hnodup, List.length_map]
  rfl

/-! ## Calls -/

/-- A call that changes what is bound. -/
inductive Call where
  /-- A session is bound to a method. -/
  | bind (session method : String)
  /-- A session is unbound from a method. -/
  | unbind (session method : String)
  /-- A session is unbound from everything. -/
  | removeSession (session : String)
deriving DecidableEq, Repr

namespace Call

/-- What a call answers, and what it leaves. -/
def on (s : Subscriptions) : Call → (Bool ⊕ Nat) × Subscriptions
  | bind session method => (s.bind session method).map .inl id
  | unbind session method => (s.unbind session method).map .inl id
  | removeSession session => (s.removeSession session).map .inr id

/-- What a set of pairs answers, and what it becomes: it tells whether a pair was new, whether it was
there, and how many pairs went. -/
def onPairs (p : Pairs) : Call → (Bool ⊕ Nat) × Pairs
  | bind session method => (.inl ((session, method) ∉ p), insert (session, method) p)
  | unbind session method => (.inl ((session, method) ∈ p), p.erase (session, method))
  | removeSession session =>
    (.inr (p.filter fun q => q.1 = session).card, p.filter fun q => q.1 ≠ session)

/-- The answers to calls that are made one after the other, and what they leave. -/
def all {α : Type} (step : α → Call → (Bool ⊕ Nat) × α) :
    α → List Call → List (Bool ⊕ Nat) × α
  | a, [] => ([], a)
  | a, call :: calls =>
    let (answer, a) := step a call
    let (answers, a) := all step a calls
    (answer :: answers, a)

/-- The step: a call answers as the pairs do, and leaves their pairs. -/
theorem onPairs_pairs (s : Subscriptions) (call : Call) :
    onPairs s.pairs call = ((on s call).1, (on s call).2.pairs) := by
  cases call with
  | bind session method =>
      have hnew : (Sum.inl (decide ((session, method) ∉ s.pairs)) : Bool ⊕ Nat) =
          .inl (!s.isBound session method) := by simp
      exact Prod.ext hnew pairs_bind.symm
  | unbind session method =>
      have hthere : (Sum.inl (decide ((session, method) ∈ s.pairs)) : Bool ⊕ Nat) =
          .inl (s.isBound session method) := by simp
      exact Prod.ext hthere pairs_unbind.symm
  | removeSession session =>
      exact Prod.ext (congrArg Sum.inr removeSession_fst.symm) pairs_removeSession.symm

/-- The run: so do calls that are made one after the other. -/
theorem all_pairs (s : Subscriptions) (calls : List Call) :
    all onPairs s.pairs calls = ((all on s calls).1, (all on s calls).2.pairs) := by
  induction calls generalizing s with
  | nil => rfl
  | cons call calls ih =>
      simp only [all]
      rw [onPairs_pairs, ih]

end Call

/-! ## What is kept -/

/-- No method is kept without sessions. -/
def Tidy (s : Subscriptions) : Prop := ∀ e ∈ s.byMethod.entries, e.2.isEmpty = false

theorem tidy_iff : s.Tidy ↔
    ∀ method sessions, s.byMethod.find? method = some sessions → sessions.isEmpty = false := by
  unfold Tidy
  simp only [Prod.forall, Dict.mem_entries_iff]

theorem tidy_empty : empty.Tidy := nofun

/-- A set with a member is not empty. -/
theorem isEmpty_add (sessions : TextSet) : (sessions.add session).isEmpty = false := by
  by_contra hempty
  have hadded : (sessions.add session).contains session = true := by simp [TextSet.contains_add]
  have hnil : sessions.add session = ∅ := TextSet.eq_empty_of_isEmpty (by simpa using hempty)
  rw [hnil] at hadded
  cases hadded

theorem Tidy.bind (h : s.Tidy) : (s.bind session method).2.Tidy := by
  rw [tidy_iff] at h ⊢
  intro n sessions hfind
  simp only [Subscriptions.bind, Dict.find?_insert] at hfind
  split at hfind
  · cases hfind
    exact isEmpty_add _
  · exact h n sessions hfind

theorem Tidy.unbind (h : s.Tidy) : (s.unbind session method).2.Tidy := by
  rw [tidy_iff] at h ⊢
  intro n sessions hfind
  simp only [Subscriptions.unbind] at hfind
  split at hfind
  · -- The last session has gone, and the method with it.
    simp only [Dict.find?_erase] at hfind
    split at hfind
    · cases hfind
    · exact h n sessions hfind
  · next hrest =>
      simp only [Dict.find?_insert] at hfind
      split at hfind
      · cases hfind
        simpa using hrest
      · exact h n sessions hfind

theorem tidy_removeSession : (s.removeSession session).2.Tidy := by
  rw [tidy_iff]
  intro n sessions hfind
  simp only [removeSession, Dict.find?_filterMap] at hfind
  obtain ⟨kept, _, hkept⟩ := Option.bind_eq_some_iff.1 hfind
  unfold keepUnlessEmpty at hkept
  split at hkept
  · cases hkept
  · next hrest =>
      cases hkept
      simpa using hrest

/-- The step: no call leaves a method without sessions. -/
theorem Tidy.on (h : s.Tidy) (call : Call) : (call.on s).2.Tidy := by
  cases call with
  | bind session method => exact h.bind
  | unbind session method => exact h.unbind
  | removeSession session => exact tidy_removeSession

/-- The run: nor do calls that are made one after the other. -/
theorem Tidy.all (h : s.Tidy) (calls : List Call) : (Call.all Call.on s calls).2.Tidy := by
  induction calls generalizing s with
  | nil => exact h
  | cons call calls ih => exact ih (h.on call)

/-- The sessions of a method are those of its pairs. -/
theorem mem_sessionsFor : session ∈ s.sessionsFor method ↔ (session, method) ∈ s.pairs := by
  rw [sessionsFor, TextSet.mem_toList_iff, mem_pairs, isBound_eq]

/-- They are listed in strictly ascending order. -/
theorem sessionsFor_pairwise : (s.sessionsFor method).Pairwise (· < ·) := Dict.keys_pairwise _

end Subscriptions

end Switchboard
