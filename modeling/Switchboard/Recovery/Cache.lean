/-
# Switchboard.Recovery.Cache -- what is made once for each owner

Something is made when an owner first needs it and kept from then on. Whoever finds nothing
(`look?`) makes one and offers it (`keep`); the first one offered stays, and everybody gets that
one. The dispatcher keeps a resolver for each owner in this way.
-/

import Switchboard.Recovery.Choice

namespace Switchboard

universe u

/-- What was made so far, by owner. -/
structure OwnerCache (ρ : Type u) where
  /-- What each owner has. -/
  byOwner : Dict ρ := ∅

namespace OwnerCache

variable {ρ : Type u}

/-- Nothing made so far. -/
def empty : OwnerCache ρ := {}

/-- What an owner has, if anything. -/
def look? (c : OwnerCache ρ) (owner : String) : Option ρ := c.byOwner.find? owner

/-- Keeps `r` for an owner that has nothing; gives what the owner has then. -/
def keep (c : OwnerCache ρ) (owner : String) (r : ρ) : ρ × OwnerCache ρ :=
  match c.look? owner with
  | some first => (first, c)
  | none => (r, { byOwner := c.byOwner.insert owner r })

/-- What an owner has, made if there is nothing yet. -/
def getOrCreate (c : OwnerCache ρ) (owner : String) (create : Unit → ρ) : ρ × OwnerCache ρ :=
  match c.look? owner with
  | some r => (r, c)
  | none => c.keep owner (create ())

/-- Notes what has become of that which an owner has. -/
def update (c : OwnerCache ρ) (owner : String) (r : ρ) : OwnerCache ρ :=
  { byOwner := c.byOwner.insert owner r }

/-- The number of owners that have something. -/
def size (c : OwnerCache ρ) : Nat := c.byOwner.size

theorem keep_fst (c : OwnerCache ρ) (owner : String) (r : ρ) :
    (c.keep owner r).1 = (c.look? owner).getD r := by
  unfold keep
  cases c.look? owner <;> rfl

/-- What an owner has stays, and no other owner gets anything. -/
theorem look?_keep (c : OwnerCache ρ) (owner other : String) (r : ρ) :
    (c.keep owner r).2.look? other =
      if other = owner then some ((c.look? owner).getD r) else c.look? other := by
  unfold keep
  cases h : c.look? owner with
  | none => simp [look?]
  | some first =>
    by_cases ho : other = owner
    · subst ho; simp [h]
    · simp [ho]

end OwnerCache

/-- The resolvers that were made so far, by owner. -/
abbrev ResolverCache (α : Type u) := OwnerCache (Resolver α)

/-- The candidate of an owner for a failure; `create` makes the owner's resolver if it has none
yet. -/
def ResolverCache.resolve {α : Type u} (c : ResolverCache α) (owner : String)
    (create : Unit → Resolver α) (f : Failure) : Option α × ResolverCache α :=
  let (r, c) := c.getOrCreate owner create
  let (found, r) := r.resolve f
  (found, c.update owner r)

end Switchboard
