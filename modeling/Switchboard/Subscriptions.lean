/-
# Switchboard.Subscriptions -- which sessions receive which notifications

A set of pairs of a session and a method, kept by method. A method without sessions is not kept.
-/

import Switchboard.Dict

namespace Switchboard

/-- The sessions bound to each method of notifications. -/
structure Subscriptions where
  /-- The sessions by method. -/
  byMethod : Dict TextSet := ∅
deriving DecidableEq

namespace Subscriptions

/-- No bindings. -/
def empty : Subscriptions := {}

/-- The sessions bound to a method, as a set. -/
def sessionSet (s : Subscriptions) (method : String) : TextSet :=
  (s.byMethod.find? method).getD ∅

/-- The sessions bound to a method, in ascending order. -/
def sessionsFor (s : Subscriptions) (method : String) : List String := (s.sessionSet method).toList

/-- Whether a session is bound to a method. -/
def isBound (s : Subscriptions) (session method : String) : Bool :=
  (s.sessionSet method).contains session

/-- Binds a session to a method; tells whether it was not bound before. -/
def bind (s : Subscriptions) (session method : String) : Bool × Subscriptions :=
  (!s.isBound session method,
    ⟨s.byMethod.insert method ((s.sessionSet method).add session)⟩)

/-- A set of sessions unless it is empty. -/
def keepUnlessEmpty (sessions : TextSet) : Option TextSet :=
  if sessions.isEmpty then none else some sessions

/-- Unbinds a session from a method; tells whether it was bound. -/
def unbind (s : Subscriptions) (session method : String) : Bool × Subscriptions :=
  let rest := (s.sessionSet method).erase session
  (s.isBound session method,
    ⟨if rest.isEmpty then s.byMethod.erase method else s.byMethod.insert method rest⟩)

/-- Unbinds a session from everything; tells from how many methods. -/
def removeSession (s : Subscriptions) (session : String) : Nat × Subscriptions :=
  ((s.byMethod.entries.filter fun e => e.2.contains session).length,
    ⟨s.byMethod.filterMap fun _ sessions => keepUnlessEmpty (sessions.erase session)⟩)

/-! ## What is bound afterwards -/

@[simp] theorem isBound_empty (session method : String) :
    empty.isBound session method = false := rfl

theorem isBound_eq (s : Subscriptions) (session method : String) :
    s.isBound session method = (s.sessionSet method).contains session := rfl

theorem sessionSet_bind (s : Subscriptions) (session method n : String) :
    (s.bind session method).2.sessionSet n =
      if n = method then (s.sessionSet method).add session else s.sessionSet n := by
  by_cases h : n = method <;> simp [bind, sessionSet, h]

theorem sessionSet_unbind (s : Subscriptions) (session method n : String) :
    (s.unbind session method).2.sessionSet n =
      if n = method then Dict.erase (s.sessionSet method) session else s.sessionSet n := by
  simp only [unbind]
  split
  · next he =>
    by_cases h : n = method
    · subst h
      rw [if_pos rfl, TextSet.eq_empty_of_isEmpty he]
      simp [sessionSet]
    · simp [sessionSet, h]
  · by_cases h : n = method <;> simp [sessionSet, h]

theorem sessionSet_removeSession (s : Subscriptions) (session n : String) :
    (s.removeSession session).2.sessionSet n = Dict.erase (s.sessionSet n) session := by
  simp only [removeSession, sessionSet, Dict.find?_filterMap]
  cases s.byMethod.find? n with
  | none => rfl
  | some sessions =>
    simp only [Option.bind_some, keepUnlessEmpty, Option.getD_some]
    split
    · next he => rw [TextSet.eq_empty_of_isEmpty he, Option.getD_none]
    · rfl

/-- Binding adds one pair and changes no other. -/
theorem isBound_bind (s : Subscriptions) (session method t n : String) :
    (s.bind session method).2.isBound t n = ((t = session && n = method) || s.isBound t n) := by
  rw [isBound_eq, sessionSet_bind]
  by_cases h : n = method
  · subst h; simp [TextSet.contains_add, isBound_eq]
  · simp [h, isBound_eq]

/-- Unbinding takes one pair away and changes no other. -/
theorem isBound_unbind (s : Subscriptions) (session method t n : String) :
    (s.unbind session method).2.isBound t n =
      (!(t = session && n = method) && s.isBound t n) := by
  rw [isBound_eq, sessionSet_unbind]
  by_cases h : n = method
  · subst h; simp [TextSet.contains_erase, isBound_eq]
  · simp [h, isBound_eq]

/-- Removing a session takes all its pairs away and changes no other. -/
theorem isBound_removeSession (s : Subscriptions) (session t n : String) :
    (s.removeSession session).2.isBound t n = (t ≠ session && s.isBound t n) := by
  rw [isBound_eq, sessionSet_removeSession, TextSet.contains_erase, isBound_eq]

end Subscriptions

end Switchboard
