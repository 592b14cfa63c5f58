/-
# Switchboard.Registry -- which handler answers a destination

Groups are registered one after another. A mapping decides under which destination a method goes,
if under any. A destination belongs to the first method registered under it; the same handler may
come again, another one is refused (`BusError.ambiguousMapping`). The exception handlers of an
owner are those of its first group.
-/

import Switchboard.Handler.Method

namespace Switchboard

/-- The destination under which a method of a group goes, if it is to be registered at all. -/
abbrev Mapping (σ : Type) := Method σ → Group σ → Option String

namespace Mapping

/-- The usual mapping: what the group's destinations start with, then the method's own
destination, which must not be empty. -/
def standard {σ : Type} : Mapping σ := fun m g =>
  if m.info.declared.isEmpty then none else some (g.start.getD "" ++ m.info.declared)

end Mapping

/-- The handlers by destination and the exception handlers by owner. -/
structure Registry (σ : Type) where
  /-- The handler of each destination. -/
  handlers : Dict (Method σ) := ∅
  /-- The exception handlers of each owner, in the order of their declaration. -/
  exceptionHandlers : Dict (List (ExceptionHandler σ)) := ∅

namespace Registry

variable {σ : Type}

/-- A registry without handlers. -/
def empty : Registry σ := {}

/-- Registers a method under a destination. -/
def registerAt (r : Registry σ) (destination : String) (m : Method σ) :
    Except BusError (Registry σ) :=
  let m := m.mappedTo destination
  match r.handlers.find? destination with
  | none => .ok { r with handlers := r.handlers.insert destination m }
  | some first =>
    if first.info.isSame m.info then .ok r
    else .error (.ambiguousMapping destination first.info.label m.info.label)

/-- Registers methods under their destinations, in order, up to the first that is refused. -/
def registerAll (r : Registry σ) : List (String × Method σ) → Except BusError (Registry σ)
  | [] => .ok r
  | (d, m) :: rest =>
    match r.registerAt d m with
    | .ok r => r.registerAll rest
    | .error e => .error e

/-- The methods of a group that are to be registered, with their destinations. -/
def mapped (mapping : Mapping σ) (g : Group σ) : List (String × Method σ) :=
  g.methods.filterMap fun m => (mapping m g).map fun d => (d, m)

/-- Registers a group. -/
def register (r : Registry σ) (mapping : Mapping σ) (g : Group σ) : Except BusError (Registry σ) :=
  match r.registerAll (mapped mapping g) with
  | .ok r =>
    .ok { r with exceptionHandlers := r.exceptionHandlers.insertNew g.owner g.exceptionHandlers }
  | .error e => .error e

/-- Registers groups in order, up to the first that is refused. -/
def registerGroups (r : Registry σ) (mapping : Mapping σ) :
    List (Group σ) → Except BusError (Registry σ)
  | [] => .ok r
  | g :: gs =>
    match r.register mapping g with
    | .ok r => r.registerGroups mapping gs
    | .error e => .error e

/-- The registry of a list of groups. -/
def ofGroups (mapping : Mapping σ) (gs : List (Group σ)) : Except BusError (Registry σ) :=
  empty.registerGroups mapping gs

/-- The handler of a destination. -/
def get? (r : Registry σ) (destination : String) : Option (Method σ) :=
  r.handlers.find? destination

/-- The exception handlers of an owner. -/
def exceptionHandlersOf (r : Registry σ) (owner : String) : List (ExceptionHandler σ) :=
  (r.exceptionHandlers.find? owner).getD []

/-- The number of destinations. -/
def size (r : Registry σ) : Nat := r.handlers.size

/-- Whether there is no destination. -/
def isEmpty (r : Registry σ) : Bool := r.handlers.isEmpty

end Registry

end Switchboard
