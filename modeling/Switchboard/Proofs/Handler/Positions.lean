/-
# Switchboard.Proofs.Handler.Positions -- params by name and by position

The params of a request are an object, in which a named parameter is looked up by its name, or an
array, in which it is looked up by its position. The two lead to the same arguments if the object
has under each name what the array has in the place of that name
(`ArgumentResolver.bindAll_byPosition_eq_byName`).

Names are given to the parameters that are bound to the params, in order, and positions count
these parameters alone, however many others stand between them. That the two agree is an invariant
of the ways in which parameters come about (`Param.Declared.position_eq`): numbering is done when a
function is described, and neither giving names nor making parameters optional changes it.
-/

import Switchboard.Handler.Binding
import Switchboard.Handler.Method

namespace Switchboard

/-! ## Positions -/

namespace Param

/-- The lists of parameters that handlers can have. -/
inductive Declared : List Param → Prop where
  /-- The parameters of a function as it stands. -/
  | describe (kinds : List ParamKind) : Declared (describe kinds)
  /-- Parameters some of which are given names. -/
  | giveNames {ps : List Param} (h : Declared ps) (names : List String) :
    Declared (giveNames ps names)
  /-- Parameters some of which are made optional. -/
  | makeOptional {ps : List Param} (h : Declared ps) (names : List String) :
    Declared (makeOptional names ps)

/-- The parameters that are bound to the params. -/
def ofParams (ps : List Param) : List Param := ps.filter fun p => p.source = .params

/-- Their positions. -/
def positions (ps : List Param) : List (Option Nat) := (ofParams ps).map position

theorem positions_cons_of_params {p : Param} (h : p.source = .params) (ps : List Param) :
    positions (p :: ps) = p.position :: positions ps := by
  simp [positions, ofParams, h]

theorem positions_cons_of_ne {p : Param} (h : p.source ≠ .params) (ps : List Param) :
    positions (p :: ps) = positions ps := by
  simp [positions, ofParams, h]

theorem positions_describeFrom (index position : Nat) (kinds : List ParamKind) :
    ∃ n, positions (describeFrom index position kinds) = (List.range' position n).map some := by
  induction kinds generalizing index position with
  | nil => exact ⟨0, rfl⟩
  | cons k ks ih =>
      rw [describeFrom]
      split
      · next hk =>
          obtain ⟨n, hn⟩ := ih (index + 1) (position + 1)
          refine ⟨n + 1, ?_⟩
          rw [positions_cons_of_params hk, hn, List.range'_succ]
          rfl
      · next hk =>
          obtain ⟨n, hn⟩ := ih (index + 1) position
          exact ⟨n, by rw [positions_cons_of_ne hk, hn]⟩

theorem positions_giveNames (ps : List Param) (names : List String) :
    positions (giveNames ps names) = positions ps := by
  induction ps generalizing names with
  | nil => rfl
  | cons p ps ih =>
      simp only [giveNames]
      split
      · next hp =>
          cases names with
          | nil => rfl
          | cons n names =>
              have hq : ({ p with name := some n } : Param).source = .params := hp
              show positions ({ p with name := some n } :: giveNames ps names) = _
              rw [positions_cons_of_params hq, positions_cons_of_params hp, ih]
      · next hp => rw [positions_cons_of_ne hp, positions_cons_of_ne hp, ih]

theorem positions_map {f : Param → Param} (hsource : ∀ p, (f p).source = p.source)
    (hposition : ∀ p, (f p).position = p.position) (ps : List Param) :
    positions (ps.map f) = positions ps := by
  induction ps with
  | nil => rfl
  | cons p ps ih =>
      rw [List.map_cons]
      by_cases hp : p.source = .params
      · rw [positions_cons_of_params hp, positions_cons_of_params ((hsource p).trans hp),
          hposition, ih]
      · rw [positions_cons_of_ne hp, positions_cons_of_ne (by rwa [hsource]), ih]

theorem positions_makeOptional (names : List String) (ps : List Param) :
    positions (makeOptional names ps) = positions ps := by
  apply positions_map
  · intro p
    grind
  · intro p
    grind

/-- The parameters that are bound to the params are numbered in order, without gaps. -/
theorem Declared.positions_eq {ps : List Param} (h : Declared ps) :
    ∃ n, positions ps = (List.range n).map some := by
  induction h with
  | describe kinds =>
      obtain ⟨n, hn⟩ := positions_describeFrom 0 0 kinds
      exact ⟨n, by rw [List.range_eq_range']; exact hn⟩
  | giveNames h names ih => rwa [positions_giveNames]
  | makeOptional h names ih => rwa [positions_makeOptional]

theorem Declared.position_eq {ps : List Param} (h : Declared ps) {i : Nat} {p : Param}
    (hp : (ofParams ps)[i]? = some p) : p.position = some i := by
  obtain ⟨n, hn⟩ := h.positions_eq
  have hi : (positions ps)[i]? = some p.position := by
    rw [positions, List.getElem?_map, hp]
    rfl
  rw [hn, List.getElem?_map] at hi
  obtain ⟨j, hj, hsome⟩ := Option.map_eq_some_iff.1 hi
  rw [← hsome]
  obtain ⟨_, hj⟩ := List.getElem?_eq_some_iff.1 hj
  simpa using hj.symm

end Param

namespace Method

variable {σ : Type}

/-- The methods that can be put together. -/
inductive Made : Method σ → Prop where
  /-- A method that answers requests. -/
  | request (destination : String) (f : Function σ) : Made (request destination f)
  /-- A method that accepts subscriptions. -/
  | subscribe (destination notifications : String) (f : Function σ) :
    Made (subscribe destination notifications f)
  /-- A method with names for its parameters. -/
  | withParamNames {h : Method σ} (made : Made h) (names : List String) :
    Made (h.withParamNames names)
  /-- A method with optional parameters. -/
  | withOptionalParams {h : Method σ} (made : Made h) (names : List String) :
    Made (h.withOptionalParams names)
  /-- A method whose responses go elsewhere. -/
  | withResponseMethod {h : Method σ} (made : Made h) (method : String) :
    Made (h.withResponseMethod method)
  /-- A method with another name. -/
  | withName {h : Method σ} (made : Made h) (name : String) : Made (h.withName name)
  /-- A method of a group. -/
  | withOwner {h : Method σ} (made : Made h) (owner : String) : Made (h.withOwner owner)
  /-- A method that is registered. -/
  | mappedTo {h : Method σ} (made : Made h) (destination : String) : Made (h.mappedTo destination)

theorem Made.declared {h : Method σ} (made : h.Made) :
    Param.Declared h.info.signature.params := by
  induction made with
  | request destination f => exact .describe _
  | subscribe destination notifications f => exact .describe _
  | withParamNames made names ih => exact .giveNames ih names
  | withOptionalParams made names ih => exact .makeOptional ih names
  | withResponseMethod made method ih => exact ih
  | withName made name ih => exact ih
  | withOwner made owner ih => exact ih
  | mappedTo made destination ih => exact ih

end Method

/-! ## Params that offer the same -/

/-- A request with other params. -/
def Message.withParams (m : RequestMessage) (params : Json) : RequestMessage :=
  { m with payload := { m.payload with params := some params } }

namespace ArgumentResolver

variable {σ : Type}

/-- What the resolver finds for a parameter does not depend on the params. -/
def IgnoresParams (r : ArgumentResolver σ) (p : Param) : Prop :=
  ∀ (m : RequestMessage) (v w : Json) (s : σ),
    r.resolve p (m.withParams v) s = r.resolve p (m.withParams w) s

/-- No resolver looks at the params for a parameter that is not bound to them. -/
def KeepToSources (rs : List (ArgumentResolver σ)) (ps : List Param) : Prop :=
  ∀ r ∈ rs, ∀ p ∈ ps, p.source ≠ .params → r.supports p = true → r.IgnoresParams p

theorem keepToSources_standard (ps : List Param) :
    KeepToSources (standard : List (ArgumentResolver σ)) ps := by
  intro r hr p _ hp hsupports m v w s
  simp only [standard, List.mem_cons, List.not_mem_nil, or_false] at hr
  rcases hr with rfl | rfl | rfl
  · rfl
  · rfl
  · exact absurd (of_decide_eq_true hsupports) hp

theorem KeepToSources.append {rs rs' : List (ArgumentResolver σ)} {ps : List Param}
    (h : KeepToSources rs ps) (h' : KeepToSources rs' ps) : KeepToSources (rs ++ rs') ps := by
  intro r hr
  exact (List.mem_append.1 hr).elim (h r) (h' r)

section Binding

variable {own : List (ArgumentResolver σ)} {p : Param}

/-- A parameter that is bound to the params is looked up by the library, whatever resolvers the
application has. -/
theorem bind_of_params (hp : p.source = .params) (m : RequestMessage) (s : σ) :
    bind (standard ++ own) m p s = (.ofExcept (paramsArgument p m), s) := by
  have hfind : (standard ++ own).find? (fun r => r.supports p) = some params := by
    simp [standard, headers, requestId, params, ofFunction, hp]
  unfold bind
  rw [hfind]
  rfl

/-- Every other parameter is found without a look at the params. -/
theorem bind_of_ne {rs : List (ArgumentResolver σ)} {ps : List Param} (h : KeepToSources rs ps)
    (hp : p ∈ ps) (hsource : p.source ≠ .params) (m : RequestMessage) (v w : Json) (s : σ) :
    bind rs (m.withParams v) p s = bind rs (m.withParams w) p s := by
  unfold bind
  cases hfind : rs.find? fun r => r.supports p with
  | none => rfl
  | some r =>
      have hsupports : r.supports p = true :=
        List.find?_some (p := fun r : ArgumentResolver σ => r.supports p) hfind
      exact h r (List.mem_of_find?_eq_some hfind) p hp hsource hsupports m v w s

/-- All parameters are bound in the same way to two requests if each of them is. -/
theorem bindAll_congr_of {rs : List (ArgumentResolver σ)} {provided : List Argument}
    {m n : RequestMessage} {ps : List Param}
    (h : ∀ p ∈ ps, ∀ s, bindWith rs provided m p s = bindWith rs provided n p s) (s : σ) :
    bindAll rs provided m ps s = bindAll rs provided n ps s := by
  induction ps generalizing s with
  | nil => rfl
  | cons p ps ih =>
      have hrest := ih fun q hq => h q (List.mem_cons_of_mem p hq)
      unfold bindAll
      rw [h p List.mem_cons_self s]
      split
      · next a t _ => rw [hrest t]
      · rfl
      · rfl

end Binding

/-! ## Names and positions -/

/-- What params have for the parameter `name` at the position `i`. -/
def offer? (params : Json) (i : Nat) (name : String) : Option Json :=
  match params with
  | .array vs => vs[i]?
  | .object fields => Entries.find? name fields
  | _ => none

theorem member?_of_position {p : Param} {i : Nat} (h : p.position = some i) (name : String)
    (params : Json) : member? p name (some params) = offer? params i name := by
  cases params with
  | array vs =>
      show p.position.bind _ = _
      rw [h]
      rfl
  | _ => rfl

/-- What a parameter with a name gets: what the params have for it, and if they have nothing, then
`null` if it is optional. -/
theorem paramsArgument_of_position {p : Param} {i : Nat} (hi : p.position = some i) {n : String}
    (hn : p.name = some n) (m : RequestMessage) (params : Json) :
    paramsArgument p (m.withParams params) =
      match offer? params i n with
      | some v => .ok (.json v)
      | none => if p.required then .error (.missingParameter n) else .ok (.json .null) := by
  unfold paramsArgument
  rw [hn]
  show (match member? p n (some params) with
    | some v => _
    | none => _) = _
  rw [member?_of_position hi]

section Method

variable {h : Method σ} (made : h.Made) {names : List String}
  (hnames : (Param.ofParams h.info.signature.params).map Param.name = names.map some)

include made hnames

/-- The parameter at a position has the name in the place of the position. -/
theorem name_of_position {i : Nat} {p : Param}
    (hp : (Param.ofParams h.info.signature.params)[i]? = some p) :
    p.position = some i ∧ ∃ n, names[i]? = some n ∧ p.name = some n := by
  have hname : (names.map some)[i]? = some p.name := by
    rw [← hnames, List.getElem?_map, hp]
    rfl
  rw [List.getElem?_map] at hname
  obtain ⟨n, hn, hsome⟩ := Option.map_eq_some_iff.1 hname
  exact ⟨made.declared.position_eq hp, n, hn, hsome.symm⟩

/-- Params that have the same for all parameters lead to the same arguments. -/
theorem bindAll_congr_offer {own : List (ArgumentResolver σ)}
    (hown : KeepToSources own h.info.signature.params) {v w : Json}
    (hoffer : ∀ (i : Nat) (n : String), names[i]? = some n → offer? v i n = offer? w i n)
    (provided : List Argument) (m : RequestMessage) (s : σ) :
    bindAll (standard ++ own) provided (m.withParams v) h.info.signature.params s =
      bindAll (standard ++ own) provided (m.withParams w) h.info.signature.params s := by
  apply bindAll_congr_of
  intro p hp s
  unfold bindWith
  cases provided.find? fun a => a.suits p.source with
  | some a => rfl
  | none =>
      by_cases hsource : p.source = .params
      · have hmem : p ∈ Param.ofParams h.info.signature.params :=
          List.mem_filter.2 ⟨hp, decide_eq_true hsource⟩
        obtain ⟨i, hp⟩ := List.getElem?_of_mem hmem
        obtain ⟨hposition, n, hi, hn⟩ := name_of_position made hnames hp
        show bind _ _ p s = bind _ _ p s
        rw [bind_of_params hsource, bind_of_params hsource,
          paramsArgument_of_position hposition hn, paramsArgument_of_position hposition hn,
          hoffer i n hi]
      · exact bind_of_ne ((keepToSources_standard _).append hown) hp hsource m v w s

/-- If all parameters that are bound to the params have names, an array of values leads to the same
arguments, or to the same failure, as an object that has each value under the name in its place and
nothing under the names that are left over. What else the object has does not matter, nor what the
array has beyond the last name; a parameter without a value is null or missing. -/
theorem bindAll_byPosition_eq_byName {own : List (ArgumentResolver σ)}
    (hown : KeepToSources own h.info.signature.params) {vs : List Json}
    {fields : List (String × Json)}
    (hfields : ∀ (i : Nat) (n : String), names[i]? = some n → Entries.find? n fields = vs[i]?)
    (provided : List Argument) (m : RequestMessage) (s : σ) :
    bindAll (standard ++ own) provided (m.withParams (.array vs)) h.info.signature.params s =
      bindAll (standard ++ own) provided (m.withParams (.object fields))
        h.info.signature.params s ∧
    (∀ surplus, names.length ≤ vs.length →
      bindAll (standard ++ own) provided (m.withParams (.array (vs ++ surplus)))
        h.info.signature.params s =
      bindAll (standard ++ own) provided (m.withParams (.array vs)) h.info.signature.params s) ∧
    ∀ (i : Nat) p n, (Param.ofParams h.info.signature.params)[i]? = some p → names[i]? = some n →
      bind (standard ++ own) (m.withParams (.array vs)) p s =
        (match vs[i]? with
          | some v => .value (.json v)
          | none => if p.required then .failed (.missingParameter n) else .value (.json .null),
        s) := by
  refine ⟨?_, ?_, ?_⟩
  · apply bindAll_congr_offer made hnames hown
    intro i n hi
    exact (hfields i n hi).symm
  · intro surplus hlength
    apply bindAll_congr_offer made hnames hown
    intro i n hi
    obtain ⟨hlt, -⟩ := List.getElem?_eq_some_iff.1 hi
    exact List.getElem?_append_left (by omega)
  · intro i p n hp hi
    have hsource := (List.mem_filter.1 (List.mem_of_getElem? hp)).2
    obtain ⟨hposition, n', hi', hn⟩ := name_of_position made hnames hp
    cases hi.symm.trans hi'
    rw [bind_of_params (of_decide_eq_true hsource), paramsArgument_of_position hposition hn]
    show (Attempt.ofExcept (match vs[i]? with
      | some v => _
      | none => _), s) = _
    cases vs[i]? with
    | some v => rfl
    | none => cases p.required <;> rfl

end Method

/-- The area of a rectangle, whose height may be left out. -/
def area : Method Unit :=
  let function : Function Unit :=
    { id := "area"
      name := "area"
      takes := .cons (.json "f64") (.cons (.sessionId "SessionId") (.cons (.json "f64") .none))
      returns := "()"
      run := fun _ s => (.value (.ok .null), s) }
  ((Method.request "area" function).withParamNames ["width", "height"]).withOptionalParams
    ["height"]

/-- A resolver that always finds the same. -/
def unit : ArgumentResolver Unit :=
  ofFunction (fun p => p.source = .custom "Unit") fun _ _ => .ok (.custom "Unit" (.string "cm"))

theorem bindAll_byPosition_eq_byName_area :
    let names := ["width", "height"]
    let fields := [("depth", Json.integer 2), ("width", .integer 3)]
    let m : RequestMessage := ⟨{ method := "area" }, .empty⟩
    let ps := area.info.signature.params
    KeepToSources [unit] ps ∧ area.Made ∧
    (Param.ofParams ps).map Param.name = names.map some ∧
    (∀ (i : Nat) (n : String), names[i]? = some n →
      Entries.find? n fields = [Json.integer 3][i]?) ∧
    bindAll (standard ++ [unit]) [] (m.withParams (.array [.integer 3])) ps () =
      bindAll (standard ++ [unit]) [] (m.withParams (.object fields)) ps () := by
  intro names fields m ps
  have hown : KeepToSources [unit] ps := by
    intro r hr p _ _ _ m v w s
    rw [List.mem_singleton.1 hr]
    rfl
  have hmade : area.Made := .withOptionalParams (.withParamNames (.request _ _) _) _
  have hnames : (Param.ofParams ps).map Param.name = names.map some := by decide
  have hfields : ∀ (i : Nat) (n : String), names[i]? = some n →
      Entries.find? n fields = [Json.integer 3][i]? := by
    intro i n hi
    match i, hi with
    | 0, rfl => decide
    | 1, rfl => decide
  exact ⟨hown, hmade, hnames, hfields,
    (bindAll_byPosition_eq_byName hmade hnames hown hfields [] m ()).1⟩

end ArgumentResolver

end Switchboard
