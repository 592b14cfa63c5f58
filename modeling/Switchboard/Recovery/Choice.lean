/-
# Switchboard.Recovery.Choice -- which candidate deals with a failure

Candidates are declared with the kinds of failures that they deal with. `Choice.ofFailure?` is the
rule: the failure, its cause, the cause of that and so on are tried until one has a candidate; of
several the one with the nearest kind is taken, and of equally near ones the first declared.

A `Resolver` gives the same answers and remembers what it found, and did not find, for each kind.
It tells kinds apart by their names, so the rule is kept as long as kinds of one name have one
ancestry.
-/

import Switchboard.Failure.Basic

namespace Switchboard

universe u

/-! ## The rule -/

/-- A kind of failure with the number of the candidate declared for it. -/
abbrev Declaration := ErrorKind × Nat

namespace Choice

/-- The declarations of candidates, given by their kinds and counted from `n`. -/
def declarationsFrom (n : Nat) : List (List ErrorKind) → List Declaration
  | [] => []
  | ks :: rest => ks.map (·, n) ++ declarationsFrom (n + 1) rest

/-- The declarations of candidates, given by their kinds. -/
def declarations (kinds : List (List ErrorKind)) : List Declaration := declarationsFrom 0 kinds

/-- The declarations that fit a kind, each with its distance from it. -/
def fitting (ds : List Declaration) (k : ErrorKind) : List (Nat × Nat) :=
  ds.filterMap fun d => (k.depthTo d.1).map (·, d.2)

/-- Of pairs of a distance and a candidate the one with the least distance, the first among
equals. -/
def nearest? : List (Nat × Nat) → Option (Nat × Nat)
  | [] => none
  | p :: ps =>
    match nearest? ps with
    | none => some p
    | some q => if q.1 < p.1 then some q else some p

/-- The candidate for a kind of failure. -/
def ofKind? (ds : List Declaration) (k : ErrorKind) : Option Nat :=
  (nearest? (fitting ds k)).map Prod.snd

/-- The candidate for a failure: the one for its own kind or else for its nearest cause that has
one. -/
def ofFailure? (ds : List Declaration) (f : Failure) : Option Nat :=
  f.chain.findSome? fun l => ofKind? ds l.kind

end Choice

/-! ## Remembering -/

/-- Candidates with what has been found out about them. -/
structure Resolver (α : Type u) where
  /-- The candidates with the kinds that they are declared for. -/
  candidates : List (List ErrorKind × α)
  /-- The number of the candidate for each kind that was asked for, if there is one. -/
  known : Dict (Option Nat) := ∅

namespace Resolver

variable {α : Type u}

/-- A resolver that knows nothing yet. -/
def ofCandidates (cs : List (List ErrorKind × α)) : Resolver α := { candidates := cs }

/-- The declarations of the candidates. -/
def declarations (r : Resolver α) : List Declaration :=
  Choice.declarations (r.candidates.map Prod.fst)

/-- Whether any kind is declared at all. -/
def hasDeclarations (r : Resolver α) : Bool := !r.declarations.isEmpty

/-- The number of the candidate for a kind, remembered from now on. -/
def resolveKind (r : Resolver α) (k : ErrorKind) : Option Nat × Resolver α :=
  match r.known.find? k.name with
  | some found => (found, r)
  | none =>
    let found := Choice.ofKind? r.declarations k
    (found, { r with known := r.known.insert k.name found })

/-- The number of the candidate for the first of some errors that has one. -/
def resolveLinks (r : Resolver α) : List Link → Option Nat × Resolver α
  | [] => (none, r)
  | l :: ls =>
    match r.resolveKind l.kind with
    | (some n, r) => (some n, r)
    | (none, r) => r.resolveLinks ls

/-- The candidate for a failure. -/
def resolve (r : Resolver α) (f : Failure) : Option α × Resolver α :=
  let (n, r) := r.resolveLinks f.chain
  (n.bind fun n => r.candidates[n]?.map Prod.snd, r)

/-- The candidate for a failure by the rule alone. -/
def resolveAfresh (r : Resolver α) (f : Failure) : Option α :=
  (Choice.ofFailure? r.declarations f).bind fun n => r.candidates[n]?.map Prod.snd

end Resolver

end Switchboard
