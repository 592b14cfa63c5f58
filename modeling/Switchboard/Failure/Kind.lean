/-
# Switchboard.Failure.Kind -- the hierarchy of error kinds

A kind is a name together with the names of the kinds above it, nearest first, so its whole
ancestry is a list: `lineage`. Kinds are told apart by their names alone. Nothing forces two kinds
of one name to have one ancestry; `Coherent` is the promise that applications make about it.
-/

namespace Switchboard

/-- A kind of error. -/
structure ErrorKind where
  /-- The name, which identifies the kind. -/
  name : String
  /-- The names of the kinds above, nearest first. -/
  above : List String := []
deriving DecidableEq, Repr

namespace ErrorKind

/-- A kind directly below another. -/
def child (name : String) (parent : ErrorKind) : ErrorKind := ⟨name, parent.name :: parent.above⟩

/-- The names of the kind and of all kinds above it. -/
def lineage (k : ErrorKind) : List String := k.name :: k.above

/-- The kind directly above. -/
def parent? (k : ErrorKind) : Option ErrorKind :=
  match k.above with
  | [] => none
  | n :: ns => some ⟨n, ns⟩

/-- The kinds of a line of names, each with what follows it above. -/
def ofLineage : List String → List ErrorKind
  | [] => []
  | n :: ns => ⟨n, ns⟩ :: ofLineage ns

/-- The kind itself and all kinds above it, nearest first. -/
def ancestors (k : ErrorKind) : List ErrorKind := ofLineage k.lineage

/-- Whether two kinds have one name. -/
def same (k l : ErrorKind) : Bool := k.name = l.name

/-- The number of steps from a kind up to another. -/
def depthTo (k ancestor : ErrorKind) : Option Nat := k.lineage.idxOf? ancestor.name

/-- Whether a kind is another or lies below it. -/
def isA (k other : ErrorKind) : Bool := (k.depthTo other).isSome

/-- Kinds of one name have one ancestry. -/
def Coherent (ks : List ErrorKind) : Prop :=
  ∀ k ∈ ks, ∀ l ∈ ks, k.name = l.name → k.lineage = l.lineage

instance : DecidablePred Coherent := fun ks =>
  inferInstanceAs (Decidable (∀ k ∈ ks, ∀ l ∈ ks, k.name = l.name → k.lineage = l.lineage))

/-! ## Kinds of the library -/

/-- Every kind of error; the top of the hierarchy. -/
def error : ErrorKind := ⟨"Error", []⟩

/-- Something went wrong while a handler ran. -/
def runtime : ErrorKind := child "Runtime" error

/-- A handler was given something that it cannot work with. -/
def invalidArgument : ErrorKind := child "InvalidArgument" runtime

/-- Something is not in the state that it should be in. -/
def invalidState : ErrorKind := child "InvalidState" runtime

/-- The parameters of a request do not fit its handler. -/
def invalidParams : ErrorKind := child "InvalidParams" invalidArgument

/-- No resolver knows a parameter of a handler. -/
def unsupportedParameter : ErrorKind := child "UnsupportedParameter" invalidState

/-- No return value handler knows what a handler returns. -/
def unsupportedReturnType : ErrorKind := child "UnsupportedReturnType" invalidState

/-- A handler panicked. -/
def panic : ErrorKind := child "Panic" runtime

/-- The kinds of the library. -/
def builtin : List ErrorKind :=
  [error, runtime, invalidArgument, invalidState, invalidParams, unsupportedParameter,
    unsupportedReturnType, panic]

theorem ancestors_map_name (k : ErrorKind) : k.ancestors.map name = k.lineage := by
  have : ∀ ns, (ofLineage ns).map name = ns := by
    intro ns
    induction ns with
    | nil => rfl
    | cons n ns ih => simp [ofLineage, ih]
  exact this _

end ErrorKind

end Switchboard
