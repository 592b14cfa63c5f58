/-
# Switchboard.Recovery.Calls -- a cache that is asked by many at once

Calls of `OwnerCache.getOrCreate` may overlap. Only their parts are atomic: a call looks, makes
what it did not find, and offers that. `Calls.after?` is the machine; which call goes on next is
left open, so between the look of a call and its offer any number of others may look and offer.
-/

import Switchboard.Recovery.Cache

namespace Switchboard

universe u

/-! ## States -/

/-- How far a call has come. -/
inductive CallStage (ρ : Type u) where
  /-- It has not looked yet. -/
  | called
  /-- It has looked and found nothing. -/
  | missed
  /-- It has made something and not offered it yet. -/
  | made (r : ρ)
  /-- It is over and gave what the owner has. -/
  | gave (r : ρ)
deriving DecidableEq, Repr

/-- A call for what an owner has. -/
structure Call (ρ : Type u) where
  /-- The owner. -/
  owner : String
  /-- How far the call has come. -/
  stage : CallStage ρ := .called
deriving DecidableEq, Repr

/-- A cache with all calls that were ever made, in the order of their beginning. -/
structure Calls (ρ : Type u) where
  /-- The cache. -/
  cache : OwnerCache ρ := .empty
  /-- The calls. -/
  calls : List (Call ρ) := []

/-! ## The machine -/

/-- What can happen to a cache. -/
inductive Calls.Event (ρ : Type u) where
  /-- A call begins. -/
  | call (owner : String)
  /-- A call looks. -/
  | look (i : Nat)
  /-- A call that found nothing makes something. -/
  | create (i : Nat) (r : ρ)
  /-- A call offers what it made. -/
  | keep (i : Nat)
deriving DecidableEq, Repr

namespace Calls

variable {ρ : Type u}

/-- Moves a call on. -/
def moveOn (s : Calls ρ) (i : Nat) (owner : String) (stage : CallStage ρ) : Calls ρ :=
  { s with calls := s.calls.set i ⟨owner, stage⟩ }

/-- The state after an event, if the event can happen. -/
def after? (s : Calls ρ) : Event ρ → Option (Calls ρ)
  | .call owner => some { s with calls := s.calls ++ [{ owner }] }
  | .look i =>
    match s.calls[i]? with
    | some ⟨owner, .called⟩ =>
      match s.cache.look? owner with
      | some r => some (s.moveOn i owner (.gave r))
      | none => some (s.moveOn i owner .missed)
    | _ => none
  | .create i r =>
    match s.calls[i]? with
    | some ⟨owner, .missed⟩ => some (s.moveOn i owner (.made r))
    | _ => none
  | .keep i =>
    match s.calls[i]? with
    | some ⟨owner, .made r⟩ =>
      let (kept, cache) := s.cache.keep owner r
      some ({ s with cache }.moveOn i owner (.gave kept))
    | _ => none

/-- The state after some events, if they can happen in this order. -/
def run? (s : Calls ρ) : List (Event ρ) → Option (Calls ρ)
  | [] => some s
  | e :: es => (s.after? e).bind fun s => s.run? es

end Calls

end Switchboard
