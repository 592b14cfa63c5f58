/-
# Switchboard.Proofs.Handler.Numbering -- what each parameter of a handler is like

The parameters of a handler come about in three passes: a function is described, names are given
to the parameters that are bound to the params, and some of the named ones are made optional. Each
pass goes through the list in a way of its own, the first with a counter, the second with the names
that are left, the third by comparing names.

They agree because all of them count the same thing: `rank kinds i`, the number of parameters
before the place `i` that are bound to the params. For each pass one lemma says what stands in each
place afterwards in terms of what stood there before and of the rank (`getElem?_describe`,
`getElem?_giveNames`, `getElem?_makeOptional`). Put together they give every parameter in closed
form (`getElem?_declare`), and `numbered_declare` reads off it what is known of a parameter.
-/

import Switchboard.Proofs.Handler.Positions

namespace Switchboard

namespace Param

/-! ## Ranks -/

/-- How many of the parameters before a place are bound to the params. -/
def rank (kinds : List ParamKind) (i : Nat) : Nat :=
  (kinds.take i).countP fun k => k.source = .params

@[simp] theorem rank_zero (kinds : List ParamKind) : rank kinds 0 = 0 := by
  simp [rank]

theorem rank_succ_of_params {k : ParamKind} (h : k.source = .params) (ks : List ParamKind)
    (i : Nat) : rank (k :: ks) (i + 1) = rank ks i + 1 := by
  simp [rank, h]

theorem rank_succ_of_ne {k : ParamKind} (h : k.source ≠ .params) (ks : List ParamKind) (i : Nat) :
    rank (k :: ks) (i + 1) = rank ks i := by
  simp [rank, h]

/-- The rank of the place after the last one counts all parameters that are bound to the params. -/
theorem rank_length (ps : List Param) :
    rank (ps.map kind) ps.length = (positions ps).length := by
  have htake : (ps.map kind).take ps.length = ps.map kind := by
    apply List.take_of_length_le
    simp
  rw [rank, htake, List.countP_map, List.countP_eq_length_filter, positions, List.length_map]
  rfl

/-- A parameter that is bound to the params is counted itself in the end. -/
theorem rank_lt {kinds : List ParamKind} {i : Nat} {k : ParamKind} (hk : kinds[i]? = some k)
    (h : k.source = .params) : rank kinds i < rank kinds kinds.length := by
  induction kinds generalizing i with
  | nil => simp at hk
  | cons l ls ih =>
      cases i with
      | zero =>
          cases hk
          rw [rank_zero, List.length_cons, rank_succ_of_params h]
          omega
      | succ i =>
          have hrest := ih (by simpa using hk)
          by_cases hl : l.source = .params
          · rw [List.length_cons, rank_succ_of_params hl, rank_succ_of_params hl]
            omega
          · rw [List.length_cons, rank_succ_of_ne hl, rank_succ_of_ne hl]
            exact hrest

/-! ## The three passes -/

theorem getElem?_describeFrom (index position : Nat) (kinds : List ParamKind) (i : Nat) :
    (describeFrom index position kinds)[i]? = kinds[i]?.map fun k =>
      { index := index + i
        position := if k.source = .params then some (position + rank kinds i) else none
        source := k.source
        typeName := k.typeName } := by
  induction kinds generalizing index position i with
  | nil => rfl
  | cons k ks ih =>
      cases i with
      | zero => by_cases hk : k.source = .params <;> simp [describeFrom, hk]
      | succ i =>
          -- The counter has moved on just when the rank has.
          by_cases hk : k.source = .params
          · have hindex : index + 1 + i = index + (i + 1) := by omega
            have hcount : ∀ r, position + 1 + r = position + (r + 1) := by
              intro r
              omega
            simp only [describeFrom, if_pos hk, List.getElem?_cons_succ, ih,
              rank_succ_of_params hk, hindex, hcount]
          · have hindex : index + 1 + i = index + (i + 1) := by omega
            simp only [describeFrom, if_neg hk, List.getElem?_cons_succ, ih, rank_succ_of_ne hk,
              hindex]

/-- Describing a function numbers its parameters. -/
theorem getElem?_describe (kinds : List ParamKind) (i : Nat) :
    (describe kinds)[i]? = kinds[i]?.map fun k =>
      { index := i
        position := if k.source = .params then some (rank kinds i) else none
        source := k.source
        typeName := k.typeName } := by
  rw [describe, getElem?_describeFrom]
  simp only [Nat.zero_add]

/-- Giving names gives the name of its rank to each parameter that is bound to the params, as long
as there are names; a parameter without a new name keeps its old one. -/
theorem getElem?_giveNames (ps : List Param) (names : List String) (i : Nat) :
    (giveNames ps names)[i]? = ps[i]?.map fun p =>
      { p with name :=
          if p.source = .params then names[rank (ps.map kind) i]?.or p.name else p.name } := by
  induction ps generalizing names i with
  | nil => rfl
  | cons p ps ih =>
      by_cases hp : p.source = .params
      · have hkind : p.kind.source = .params := hp
        cases names with
        | nil => simp [giveNames, hp]
        | cons n names =>
            cases i with
            | zero => simp [giveNames, hp]
            | succ i =>
                simp only [giveNames, if_pos hp, List.getElem?_cons_succ, ih, List.map_cons,
                  rank_succ_of_params hkind]
      · have hkind : p.kind.source ≠ .params := hp
        cases i with
        | zero => simp [giveNames, hp]
        | succ i =>
            simp only [giveNames, if_neg hp, List.getElem?_cons_succ, ih, List.map_cons,
              rank_succ_of_ne hkind]

/-- Making parameters optional does so to those whose name is among the given ones. -/
theorem getElem?_makeOptional (names : List String) (ps : List Param) (i : Nat) :
    (makeOptional names ps)[i]? = ps[i]?.map fun p =>
      { p with required := p.required && !p.name.any (· ∈ names) } := by
  rw [makeOptional, List.getElem?_map]
  congr 1
  funext p
  obtain ⟨index, name, position, source, typeName, required⟩ := p
  cases name with
  | none => simp
  | some n => by_cases hn : n ∈ names <;> simp [hn]

/-! ## All three together -/

/-- The parameters of a function of the given kinds, with names, some of them optional. -/
def declare (kinds : List ParamKind) (names optional : List String) : List Param :=
  makeOptional optional (giveNames (describe kinds) names)

variable {kinds : List ParamKind} {names optional : List String} {i : Nat}

/-- The name that a parameter in a place is given. -/
def nameAt (kinds : List ParamKind) (names : List String) (i : Nat) (k : ParamKind) :
    Option String :=
  if k.source = .params then names[rank kinds i]? else none

/-- Every parameter in closed form. -/
theorem getElem?_declare (kinds : List ParamKind) (names optional : List String) (i : Nat) :
    (declare kinds names optional)[i]? = kinds[i]?.map fun k =>
      { index := i
        name := nameAt kinds names i k
        position := if k.source = .params then some (rank kinds i) else none
        source := k.source
        typeName := k.typeName
        required := !(nameAt kinds names i k).any (· ∈ optional) } := by
  rw [declare, getElem?_makeOptional, getElem?_giveNames, getElem?_describe, map_kind_describe,
    Option.map_map, Option.map_map]
  congr 1
  funext k
  simp [nameAt]

theorem map_kind_declare (kinds : List ParamKind) (names optional : List String) :
    (declare kinds names optional).map kind = kinds := by
  rw [declare, map_kind_makeOptional, map_kind_giveNames, map_kind_describe]

/-- The parameters that are bound to the params are numbered from zero on. -/
theorem positions_declare (kinds : List ParamKind) (names optional : List String) :
    positions (declare kinds names optional) = (List.range (rank kinds kinds.length)).map some := by
  have hkinds : (describe kinds).map kind = kinds := map_kind_describe kinds
  have hlength : (describe kinds).length = kinds.length := by
    rw [← hkinds, List.length_map, hkinds]
  obtain ⟨n, hn⟩ := (Declared.describe kinds).positions_eq
  have hrank : rank kinds kinds.length = n := by
    have hall := rank_length (describe kinds)
    rw [hkinds, hlength, hn] at hall
    simpa using hall
  rw [declare, positions_makeOptional, positions_giveNames, hn, hrank]

/-- Where there is a name for every parameter that is bound to the params, further names make no
difference. -/
theorem declare_append (h : rank kinds kinds.length ≤ names.length) (more : List String) :
    declare kinds (names ++ more) optional = declare kinds names optional := by
  apply List.ext_getElem?
  intro i
  rw [getElem?_declare, getElem?_declare]
  cases hk : kinds[i]? with
  | none => rfl
  | some k =>
      have hname : nameAt kinds (names ++ more) i k = nameAt kinds names i k := by
        unfold nameAt
        split
        · next hsource =>
            have hlt := rank_lt hk hsource
            exact List.getElem?_append_left (by omega)
        · rfl
      simp only [Option.map_some, hname]

/-! ## What is known of a parameter -/

/-- What is known of the parameters of a function of the given kinds, once names were given and
some of the named parameters made optional. -/
structure Numbered (kinds : List ParamKind) (names optional : List String) : Prop where
  /-- There is one parameter of each kind, in the same order. -/
  inOrder : (declare kinds names optional).map kind = kinds
  /-- Each parameter knows its place. -/
  index : ∀ (i : Nat) (p : Param), (declare kinds names optional)[i]? = some p → p.index = i
  /-- The position of a parameter that is bound to the params is the number of those before it; no
  other parameter has a position. -/
  position : ∀ (i : Nat) (p : Param), (declare kinds names optional)[i]? = some p →
    p.position = if p.source = .params then some (rank kinds i) else none
  /-- Its name is the one that stands at that number among the given names, if there are so many; no
  other parameter has a name. -/
  name : ∀ (i : Nat) (p : Param), (declare kinds names optional)[i]? = some p → ∀ n,
    p.name = some n ↔ p.source = .params ∧ names[rank kinds i]? = some n
  /-- A parameter is optional just when it has a name that is among those of optional ones. -/
  isOptional : ∀ (i : Nat) (p : Param), (declare kinds names optional)[i]? = some p →
    (p.required = false ↔ ∃ n, p.name = some n ∧ n ∈ optional)
  /-- The positions are zero, one, two and so on, without gaps. -/
  consecutive : positions (declare kinds names optional) =
    (List.range (rank kinds kinds.length)).map some
  /-- Names for which there is no parameter make no difference. -/
  surplus : rank kinds kinds.length ≤ names.length → ∀ more,
    declare kinds (names ++ more) optional = declare kinds names optional
  /-- A parameter that is bound to something else has no name and no position, and it must be
  given. -/
  untouched : ∀ p ∈ declare kinds names optional, p.source ≠ .params →
    p.name = none ∧ p.position = none ∧ p.required = true
  /-- These are the parameters of the methods that are made of such functions. -/
  ofMethods : ∀ {σ : Type} (f : Function σ), f.takes.kinds = kinds → ∀ destination notifications,
    (((Method.request destination f).withParamNames names).withOptionalParams
      optional).info.signature.params = declare kinds names optional ∧
    (((Method.subscribe destination notifications f).withParamNames names).withOptionalParams
      optional).info.signature.params = declare kinds names optional

/-- Whatever the kinds, the names and the optional names, the three passes agree. -/
theorem numbered_declare (kinds : List ParamKind) (names optional : List String) :
    Numbered kinds names optional := by
  have hplace : ∀ (i : Nat) (p : Param), (declare kinds names optional)[i]? = some p →
      p.index = i ∧ p.name = (if p.source = .params then names[rank kinds i]? else none) ∧
      p.position = (if p.source = .params then some (rank kinds i) else none) ∧
      p.required = !p.name.any (· ∈ optional) := by
    intro i p hp
    rw [getElem?_declare] at hp
    obtain ⟨k, _, rfl⟩ := Option.map_eq_some_iff.1 hp
    exact ⟨rfl, rfl, rfl, rfl⟩
  refine
    { inOrder := map_kind_declare kinds names optional, index := ?_, position := ?_, name := ?_
      isOptional := ?_, consecutive := positions_declare kinds names optional
      surplus := fun h more => declare_append h more, untouched := ?_, ofMethods := ?_ }
  · intro i p hp
    exact (hplace i p hp).1
  · intro i p hp
    exact (hplace i p hp).2.2.1
  · intro i p hp n
    rw [(hplace i p hp).2.1]
    by_cases hsource : p.source = .params <;> simp [hsource]
  · intro i p hp
    rw [(hplace i p hp).2.2.2]
    simp [Option.any_eq_true]
  · intro p hp hsource
    obtain ⟨i, hi⟩ := List.getElem?_of_mem hp
    obtain ⟨_, hname, hposition, hrequired⟩ := hplace i p hi
    rw [if_neg hsource] at hname hposition
    rw [hname] at hrequired
    exact ⟨hname, hposition, hrequired⟩
  · intro σ f hf destination notifications
    subst hf
    exact ⟨rfl, rfl⟩

/-- The second name is for the fourth parameter. -/
example : (declare [⟨.requestId, "Id"⟩, ⟨.params, "Point"⟩, ⟨.sessionId, "String"⟩,
      ⟨.params, "Area"⟩] ["point", "area", "colour"] ["area"]).map
        (fun p => (p.position, p.name, p.required)) =
    [(none, none, true), (some 0, some "point", true), (none, none, true),
      (some 1, some "area", false)] :=
  rfl

end Param

end Switchboard
