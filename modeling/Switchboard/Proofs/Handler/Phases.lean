/-
# Switchboard.Proofs.Handler.Phases -- first all arguments are found, then all are converted

A call has three phases. Arguments are found for all parameters, from left to right; then they are
converted, again from left to right; then the function runs. What goes wrong in a phase ends the
call, so an argument that cannot be found comes before one that cannot be converted, wherever the
two parameters stand.

The phases are specified beside the code. `Resolves` says that arguments were found for some
parameters, one after another, and `Unresolved` that the next one was not; `Parameters.Converts`
says what the conversion of one argument comes to, by its place among the parameters. Every call is
one of three kinds (`phased_of_fits`). What a call does is read off a second call, which is watched:
its resolvers and its function note that they were called (`Function.events`).
-/

import Switchboard.Proofs.Dispatch.Recording

namespace Switchboard

variable {σ : Type}

/-- Code fails or panics with a failure; `into` makes its errors into failures. -/
inductive Attempt.Raises {ε α : Type} (into : ε → Failure) : Attempt ε α → Failure → Prop
  /-- It fails. -/
  | failed (error : ε) : Raises into (.failed error) (into error)
  /-- It panics. -/
  | panicked (p : Panic) : Raises into (.panicked p) (.ofPanic p)

theorem Attempt.Raises.map {ε α β : Type} {into : ε → Failure} {r : Attempt ε α} {e : Failure}
    (h : r.Raises into e) (f : α → β) : (r.map f).Raises into e := by
  cases h with
  | failed error => exact .failed error
  | panicked p => exact .panicked p

theorem Attempt.Raises.bind {ε α β : Type} {into : ε → Failure} {r : Attempt ε α} {e : Failure}
    (h : r.Raises into e) (f : α → Attempt ε β) : (r.bind f).Raises into e := by
  cases h with
  | failed error => exact .failed error
  | panicked p => exact .panicked p

/-! ## Watched calls -/

/-- What happens in a call. -/
inductive Function.Event where
  /-- The resolver of the given place among all resolvers is asked for an argument. -/
  | asked (resolver : Nat) (p : Param)
  /-- The function runs. -/
  | ran
deriving DecidableEq

namespace ArgumentResolver

/-- The argument resolver, which notes what it is asked for. -/
def noting (r : ArgumentResolver σ) (place : Nat) :
    ArgumentResolver (σ × List Function.Event) where
  supports := r.supports
  resolve p m s := ((r.resolve p m s.1).1, ((r.resolve p m s.1).2, s.2 ++ [.asked place p]))

/-- Argument resolvers that note what they are asked for; the first has the given place. -/
def notingFrom (place : Nat) : List (ArgumentResolver σ) →
    List (ArgumentResolver (σ × List Function.Event))
  | [] => []
  | r :: rs => r.noting place :: notingFrom (place + 1) rs

/-- The place of the first resolver that supports a parameter. -/
def asked? (rs : List (ArgumentResolver σ)) (p : Param) : Option Nat :=
  rs.findIdx? fun r => r.supports p

/-- The events of finding an argument: none if it is provided, or if no resolver supports the
parameter. -/
def askedFor (rs : List (ArgumentResolver σ)) (provided : List Argument) (p : Param) :
    List Function.Event :=
  if (provided.find? fun a => a.suits p.source).isSome then []
  else (asked? rs p).toList.map fun place => .asked place p

variable {rs : List (ArgumentResolver σ)} {provided : List Argument} {m : RequestMessage}
  {p : Param} {s : σ} {log : List Function.Event}

theorem bind_notingFrom (place : Nat) :
    bind (notingFrom place rs) m p (s, log) = ((bind rs m p s).1, ((bind rs m p s).2,
      log ++ (asked? rs p).toList.map fun i => .asked (place + i) p)) := by
  induction rs generalizing place with
  | nil => simp [notingFrom, bind, asked?]
  | cons r rs ih =>
      cases hsupports : r.supports p with
      | true =>
          simp [notingFrom, bind, asked?, List.findIdx?_cons, hsupports, noting]
      | false =>
          have hnoting : (r.noting place).supports p = false := hsupports
          have hnext := ih (place + 1)
          simp only [bind, asked?] at hnext
          simp only [notingFrom, bind, asked?, List.findIdx?_cons, List.find?_cons, hsupports,
            hnoting, hnext]
          cases rs.findIdx? fun r => r.supports p with
          | none => rfl
          | some i => simp [Nat.add_assoc, Nat.add_comm 1]

theorem bindWith_notingFrom :
    bindWith (notingFrom 0 rs) provided m p (s, log) = ((bindWith rs provided m p s).1,
      ((bindWith rs provided m p s).2, log ++ askedFor rs provided p)) := by
  unfold bindWith askedFor
  cases provided.find? fun a => a.suits p.source with
  | none =>
      simpa using bind_notingFrom 0
  | some a => simp

/-- What the resolvers leave alone, finding an argument leaves alone. -/
theorem look_bindWith {τ : Type} {look : σ → τ}
    (hlook : ∀ r ∈ rs, ∀ p m s, look (r.resolve p m s).2 = look s) {r : Attempt BusError Argument}
    {s' : σ} (h : bindWith rs provided m p s = (r, s')) : look s' = look s := by
  rw [show s' = (bindWith rs provided m p s).2 by rw [h], bindWith]
  cases provided.find? fun a => a.suits p.source with
  | some a => rfl
  | none =>
      unfold bind
      dsimp only
      cases hfind : rs.find? fun r => r.supports p with
      | none => rfl
      | some r => exact hlook r (List.mem_of_find?_eq_some hfind) p m s

/-! ## Finding the arguments -/

/-- Arguments are found for some parameters, from left to right. -/
inductive Resolves (rs : List (ArgumentResolver σ)) (provided : List Argument)
    (m : RequestMessage) : List Param → σ → List Argument → σ → Prop
  /-- There is nothing to be found. -/
  | nil {s : σ} : Resolves rs provided m [] s [] s
  /-- The argument for the first parameter is found, then those for the others. -/
  | cons {p : Param} {ps : List Param} {a : Argument} {arguments : List Argument} {s s₁ s₂ : σ}
      (first : bindWith rs provided m p s = (.value a, s₁))
      (rest : Resolves rs provided m ps s₁ arguments s₂) :
      Resolves rs provided m (p :: ps) s (a :: arguments) s₂

/-- No argument is found for the parameter `p` after those before it: this fails or panics with the
failure `e`. -/
structure Unresolved (rs : List (ArgumentResolver σ)) (provided : List Argument)
    (m : RequestMessage) (params : List Param) (s : σ) (before : List Param) (p : Param)
    (e : Failure) (s' : σ) : Prop where
  /-- The parameter stands after those before it. -/
  stands : ∃ after, params = before ++ p :: after
  /-- Their arguments are found, and its own is not. -/
  fails : ∃ found s₁ r, Resolves rs provided m before s found s₁ ∧
    bindWith rs provided m p s₁ = (r, s') ∧ r.Raises .ofBusError e

variable {ps before : List Param} {arguments : List Argument} {s' : σ} {e : Failure}

theorem Resolves.length_eq (h : Resolves rs provided m ps s arguments s') :
    arguments.length = ps.length := by
  induction h with
  | nil => rfl
  | cons _ _ ih => simp [ih]

theorem Resolves.bindAll_eq (h : Resolves rs provided m ps s arguments s') :
    bindAll rs provided m ps s = (.value arguments, s') := by
  induction h with
  | nil => rfl
  | cons first rest ih => simp [bindAll, first, ih, Attempt.map]

/-- Watched resolvers find the same, and note it. -/
theorem Resolves.noting (h : Resolves rs provided m ps s arguments s') (log : List Function.Event) :
    Resolves (notingFrom 0 rs) provided m ps (s, log) arguments
      (s', log ++ ps.flatMap (askedFor rs provided)) := by
  induction h generalizing log with
  | nil => simpa using Resolves.nil
  | @cons p _ _ _ _ _ _ first rest ih =>
      refine .cons (bindWith_notingFrom.trans (by rw [first])) ?_
      simpa using ih (log ++ askedFor rs provided p)

theorem Resolves.look_eq {τ : Type} {look : σ → τ}
    (hlook : ∀ r ∈ rs, ∀ p m s, look (r.resolve p m s).2 = look s)
    (h : Resolves rs provided m ps s arguments s') : look s' = look s := by
  induction h with
  | nil => rfl
  | cons first rest ih => rw [ih, look_bindWith hlook first]

theorem Unresolved.cons {a : Argument} {s₁ : σ}
    (first : bindWith rs provided m p s = (.value a, s₁)) {q : Param}
    (h : Unresolved rs provided m ps s₁ before q e s') :
    Unresolved rs provided m (p :: ps) s (p :: before) q e s' := by
  obtain ⟨⟨after, rfl⟩, found, t, r, hfound, hbind, hfails⟩ := h
  exact ⟨⟨after, rfl⟩, a :: found, t, r, .cons first hfound, hbind, hfails⟩

theorem Unresolved.bindAll_eq (h : Unresolved rs provided m ps s before p e s') :
    ∃ r, bindAll rs provided m ps s = (r, s') ∧ r.Raises .ofBusError e := by
  obtain ⟨⟨after, rfl⟩, found, s₁, r, hfound, hbind, hfails⟩ := h
  induction hfound with
  | nil =>
      rw [List.nil_append, bindAll, hbind]
      cases hfails with
      | failed error => exact ⟨_, rfl, .failed error⟩
      | panicked q => exact ⟨_, rfl, .panicked q⟩
  | cons first rest ih =>
      obtain ⟨r', heq, hfails'⟩ := ih hbind
      rw [List.cons_append, bindAll, first]
      dsimp only
      rw [heq]
      cases hfails' with
      | failed error => exact ⟨_, rfl, .failed error⟩
      | panicked q => exact ⟨_, rfl, .panicked q⟩

theorem Unresolved.noting (h : Unresolved rs provided m ps s before p e s') :
    Unresolved (notingFrom 0 rs) provided m ps (s, []) before p e
      (s', (before ++ [p]).flatMap (askedFor rs provided)) := by
  obtain ⟨hstands, found, s₁, r, hfound, hbind, hfails⟩ := h
  refine ⟨hstands, found, _, r, hfound.noting [], ?_, hfails⟩
  rw [bindWith_notingFrom, hbind]
  simp

theorem Unresolved.look_eq {τ : Type} {look : σ → τ}
    (hlook : ∀ r ∈ rs, ∀ p m s, look (r.resolve p m s).2 = look s)
    (h : Unresolved rs provided m ps s before p e s') : look s' = look s := by
  obtain ⟨-, found, s₁, r, hfound, hbind, -⟩ := h
  rw [look_bindWith hlook hbind, hfound.look_eq hlook]

/-- Either all arguments are found, or there is a first one that is not. -/
theorem resolves_or_unresolved (rs : List (ArgumentResolver σ)) (provided : List Argument)
    (m : RequestMessage) (ps : List Param) (s : σ) :
    (∃ arguments s', Resolves rs provided m ps s arguments s') ∨
      ∃ before p e s', Unresolved rs provided m ps s before p e s' := by
  induction ps generalizing s with
  | nil => exact .inl ⟨[], s, .nil⟩
  | cons p ps ih =>
      cases hfirst : bindWith rs provided m p s with
      | mk r s₁ =>
          cases r with
          | value a =>
              rcases ih s₁ with ⟨arguments, s', hrest⟩ | ⟨before, q, e, s', hrest⟩
              · exact .inl ⟨a :: arguments, s', .cons hfirst hrest⟩
              · exact .inr ⟨p :: before, q, e, s', hrest.cons hfirst⟩
          | failed error =>
              exact .inr ⟨[], p, _, s₁, ⟨ps, rfl⟩, [], s, _, .nil, hfirst, .failed error⟩
          | panicked q =>
              exact .inr ⟨[], p, _, s₁, ⟨ps, rfl⟩, [], s, _, .nil, hfirst, .panicked q⟩

end ArgumentResolver

/-! ## Converting the arguments -/

namespace Parameters

/-- The extractors of some parameters, in order. -/
def extractors : {α : Type} → Parameters α → List (Sigma Extractor)
  | _, none => []
  | _, cons x rest => ⟨_, x⟩ :: rest.extractors

/-- The values of some parameters, in order. -/
def values : {α : Type} → Parameters α → α → List (Σ β : Type, β)
  | _, none, () => []
  | _, cons _ rest, (v, vs) => ⟨_, v⟩ :: rest.values vs

/-- The `i`-th conversion, which is one of the `i`-th argument for the `i`-th parameter, comes to
`r`. -/
def Converts {α : Type} (takes : Parameters α) (params : List Param) (arguments : List Argument)
    (i : Nat) {β : Type} (r : Attempt Failure β) : Prop :=
  ∃ x p a, takes.extractors[i]? = some ⟨β, x⟩ ∧ params[i]? = some p ∧ arguments[i]? = some a ∧
    x.extract p a = r

/-- Every conversion gives a value. -/
def Converted {α : Type} (takes : Parameters α) (params : List Param)
    (arguments : List Argument) : Prop :=
  ∀ i < params.length, ∃ (β : Type) (v : β), takes.Converts params arguments i (.value v)

/-- The `i`-th conversion fails or panics with the failure `e`, and none before it does. -/
structure Unconverted {α : Type} (takes : Parameters α) (params : List Param)
    (arguments : List Argument) (i : Nat) (e : Failure) : Prop where
  /-- Those before it give values. -/
  before : ∀ j < i, ∃ (β : Type) (v : β), takes.Converts params arguments j (.value v)
  /-- It does not. -/
  fails : ∃ (β : Type) (r : Attempt Failure β),
    takes.Converts params arguments i r ∧ r.Raises id e

variable {α β : Type} {x : Extractor α} {rest : Parameters β} {p : Param} {ps : List Param}
  {a : Argument} {arguments : List Argument} {i : Nat} {e : Failure}

theorem converts_zero :
    (cons x rest).Converts (p :: ps) (a :: arguments) 0 (x.extract p a) :=
  ⟨x, p, a, rfl, rfl, rfl, rfl⟩

theorem Unconverted.succ {v : α} (first : x.extract p a = .value v)
    (h : rest.Unconverted ps arguments i e) :
    (cons x rest).Unconverted (p :: ps) (a :: arguments) (i + 1) e := by
  obtain ⟨hbefore, hfails⟩ := h
  refine ⟨?_, hfails⟩
  intro j hj
  cases j with
  | zero => exact ⟨α, v, first ▸ converts_zero⟩
  | succ j => exact hbefore j (Nat.lt_of_succ_lt_succ hj)

/-- The leftmost conversion that fails is what reading the arguments fails with. -/
theorem Unconverted.read_eq {α : Type} {takes : Parameters α} {ps : List Param}
    {arguments : List Argument} {i : Nat} (h : takes.Unconverted ps arguments i e) :
    (takes.read (ps.zip arguments)).Raises id e := by
  induction takes generalizing ps arguments i with
  | none =>
      obtain ⟨-, β, r, ⟨x, p, a, hx, -⟩, -⟩ := h
      cases hx
  | @cons α β x rest ih =>
      obtain ⟨hbefore, γ, r, ⟨y, q, b, hy, hq, hb, hr⟩, hfails⟩ := h
      -- There is a parameter in place `i`, so there is a first one, and its argument.
      obtain ⟨p, ps, rfl⟩ : ∃ p ps', ps = p :: ps' :=
        List.exists_cons_of_ne_nil (by rintro rfl; cases hq)
      obtain ⟨a, arguments, rfl⟩ : ∃ a arguments', arguments = a :: arguments' :=
        List.exists_cons_of_ne_nil (by rintro rfl; cases hb)
      rw [List.zip_cons_cons, read]
      cases i with
      | zero =>
          cases hy
          cases hq
          cases hb
          rw [hr]
          exact hfails.bind _
      | succ i =>
          obtain ⟨_, v, _, _, _, hy', hq', hb', hv⟩ := hbefore 0 (Nat.succ_pos i)
          cases hy'
          cases hq'
          cases hb'
          have hrest : rest.Unconverted ps arguments i e :=
            ⟨fun j hj => hbefore (j + 1) (Nat.succ_lt_succ hj), γ, r, ⟨y, q, b, hy, hq, hb, hr⟩,
              hfails⟩
          rw [hv]
          exact (ih hrest).map _

/-- Arguments that are read are converted one by one. -/
theorem converts_of_read {α : Type} {takes : Parameters α} {ps : List Param}
    {arguments : List Argument} {vs : α} (h : takes.read (ps.zip arguments) = .value vs) {i : Nat}
    {β : Type} {v : β} (hv : (takes.values vs)[i]? = some ⟨β, v⟩) :
    takes.Converts ps arguments i (.value v) := by
  induction takes generalizing ps arguments i with
  | none => cases hv
  | cons x rest ih =>
      cases ps with
      | nil => cases h
      | cons p ps =>
          cases arguments with
          | nil => cases h
          | cons a arguments =>
              obtain ⟨w, ws⟩ := vs
              rw [List.zip_cons_cons, read] at h
              cases hfirst : x.extract p a with
              | failed e => rw [hfirst] at h; cases h
              | panicked q => rw [hfirst] at h; cases h
              | value w' =>
                  cases hrest : rest.read (ps.zip arguments) with
                  | failed e => rw [hfirst, hrest] at h; cases h
                  | panicked q => rw [hfirst, hrest] at h; cases h
                  | value ws' =>
                      rw [hfirst, hrest] at h
                      cases h
                      cases i with
                      | zero =>
                          cases hv
                          exact hfirst ▸ converts_zero
                      | succ i => exact ih hrest hv

theorem length_values {α : Type} (takes : Parameters α) (vs : α) :
    (takes.values vs).length = takes.kinds.length := by
  induction takes with
  | none => rfl
  | cons x rest ih => simp [values, kinds, ih]

/-- If there are as many arguments as parameters, all of them are read or there is a first one that
cannot be converted. -/
theorem read_or_unconverted {α : Type} (takes : Parameters α) {ps : List Param}
    {arguments : List Argument} (hps : ps.length = takes.kinds.length)
    (harguments : arguments.length = ps.length) :
    (∃ vs, takes.read (ps.zip arguments) = .value vs) ∨
      ∃ i e, takes.Unconverted ps arguments i e := by
  induction takes generalizing ps arguments with
  | none => exact .inl ⟨(), rfl⟩
  | cons x rest ih =>
      obtain ⟨p, ps, rfl⟩ := List.exists_cons_of_length_eq_add_one hps
      obtain ⟨a, arguments, rfl⟩ := List.exists_cons_of_length_eq_add_one harguments
      have hzero : (cons x rest).Converts (p :: ps) (a :: arguments) 0 (x.extract p a) :=
        converts_zero
      cases hfirst : x.extract p a with
      | failed e =>
          exact .inr ⟨0, e, nofun, _, _, hzero, hfirst ▸ .failed e⟩
      | panicked q =>
          exact .inr ⟨0, .ofPanic q, nofun, _, _, hzero, hfirst ▸ .panicked q⟩
      | value v =>
          rcases ih (Nat.succ.inj hps) (Nat.succ.inj harguments) with ⟨vs, hrest⟩ | ⟨i, e, hrest⟩
          · refine .inl ⟨(v, vs), ?_⟩
            rw [List.zip_cons_cons, read, hfirst]
            show (rest.read (ps.zip arguments)).map _ = _
            rw [hrest]
            rfl
          · exact .inr ⟨i + 1, e, hrest.succ hfirst⟩

/-- A conversion that fails is not one that gives a value. -/
theorem Unconverted.not_converted {α : Type} {takes : Parameters α} {ps : List Param}
    {arguments : List Argument} {i : Nat} (h : takes.Unconverted ps arguments i e) :
    ¬takes.Converted ps arguments := by
  intro hall
  obtain ⟨-, γ, r, ⟨y, q, b, hy, hq, hb, hr⟩, hfails⟩ := h
  obtain ⟨hi, -⟩ := List.getElem?_eq_some_iff.1 hq
  obtain ⟨β, v, x, p, a, hx, hp, ha, hv⟩ := hall i hi
  cases hx.symm.trans hy
  cases hp.symm.trans hq
  cases ha.symm.trans hb
  rw [← hr, hv] at hfails
  cases hfails

section Lengths

variable {α : Type} {takes : Parameters α} {ps : List Param} {arguments : List Argument}
  (hps : ps.length = takes.kinds.length)

include hps

/-- Arguments that are read are all converted. -/
theorem converted_of_read {vs : α} (h : takes.read (ps.zip arguments) = .value vs) :
    takes.Converted ps arguments := by
  intro i hi
  have hvalues : i < (takes.values vs).length := by
    rw [length_values, ← hps]
    exact hi
  exact ⟨_, _, converts_of_read h (List.getElem?_eq_getElem hvalues)⟩

theorem read_of_converted (harguments : arguments.length = ps.length)
    (h : takes.Converted ps arguments) : ∃ vs, takes.read (ps.zip arguments) = .value vs := by
  rcases read_or_unconverted takes hps harguments with hread | ⟨i, e, hunconverted⟩
  · exact hread
  · exact absurd h hunconverted.not_converted

end Lengths

end Parameters

/-! ## Calls -/

namespace Function

open ArgumentResolver

/-- The function, which notes that it runs. -/
def tracing (f : Function σ) : Function (σ × List Event) where
  id := f.id
  name := f.name
  Args := f.Args
  takes := f.takes
  returns := f.returns
  run args s := ((f.run args s.1).1, ((f.run args s.1).2, s.2 ++ [.ran]))

/-- The call with all that happens in it. -/
def watched (f : Function σ) (params : List Param) (rs : List (ArgumentResolver σ))
    (provided : List Argument) (m : RequestMessage) (s : σ) :
    Except Failure Json × σ × List Event :=
  f.tracing.invoke params (notingFrom 0 rs) provided m (s, [])

variable {f : Function σ} {params before : List Param} {rs : List (ArgumentResolver σ)}
  {provided : List Argument} {m : RequestMessage} {s s' : σ} {p : Param} {e : Failure}
  {arguments : List Argument} {i : Nat}

theorem invoke_of_unresolved (h : Unresolved rs provided m params s before p e s') :
    f.invoke params rs provided m s = (.error e, s') := by
  obtain ⟨r, hbind, hfails⟩ := h.bindAll_eq
  rw [invoke, hbind]
  cases hfails with
  | failed error => rfl
  | panicked q => rfl

theorem invoke_of_unconverted (h : Resolves rs provided m params s arguments s')
    (hconversion : f.takes.Unconverted params arguments i e) :
    f.invoke params rs provided m s = (.error e, s') := by
  rw [invoke, h.bindAll_eq]
  have hread := hconversion.read_eq
  generalize hresult : f.takes.read (params.zip arguments) = result at hread
  cases hread with
  | failed error =>
      dsimp only
      rw [call_of_failed hresult]
      rfl
  | panicked q =>
      dsimp only
      rw [call_of_panicked hresult]
      rfl

theorem invoke_of_converted (h : Resolves rs provided m params s arguments s') {vs : f.Args}
    (hread : f.takes.read (params.zip arguments) = .value vs) :
    f.invoke params rs provided m s =
      (((f.run vs s').1.bind (encode f.returns)).guarded, (f.run vs s').2) := by
  rw [invoke, h.bindAll_eq]
  dsimp only
  rw [call_of_value hread]

/-- What holds of a call: it is one of three kinds, and whatever goes wrong first ends it. -/
structure Phased (f : Function σ) (params : List Param) (rs : List (ArgumentResolver σ))
    (provided : List Argument) (m : RequestMessage) (s : σ) : Prop where
  /-- If an argument cannot be found, the call fails with the first such failure, and no resolver is
  asked for a later argument. -/
  unresolved : ∀ before p e s', Unresolved rs provided m params s before p e s' →
    f.invoke params rs provided m s = (.error e, s') ∧
    f.watched params rs provided m s =
      (.error e, s', (before ++ [p]).flatMap (askedFor rs provided))
  /-- If all are found and one cannot be converted, the call fails with the first such failure, and
  the function does not run. -/
  unconverted : ∀ arguments s' i e, Resolves rs provided m params s arguments s' →
    f.takes.Unconverted params arguments i e →
    f.invoke params rs provided m s = (.error e, s') ∧
    f.watched params rs provided m s = (.error e, s', params.flatMap (askedFor rs provided))
  /-- If all are found and converted, the function runs once, with the values of the conversions in
  their places. -/
  converted : ∀ arguments s', Resolves rs provided m params s arguments s' →
    f.takes.Converted params arguments →
    ∃ vs, (f.takes.values vs).length = params.length ∧
      (∀ i β v, (f.takes.values vs)[i]? = some ⟨β, v⟩ →
        f.takes.Converts params arguments i (.value v)) ∧
      f.invoke params rs provided m s =
        (((f.run vs s').1.bind (encode f.returns)).guarded, (f.run vs s').2) ∧
      f.watched params rs provided m s =
        (((f.run vs s').1.bind (encode f.returns)).guarded, (f.run vs s').2,
          params.flatMap (askedFor rs provided) ++ [.ran])
  /-- There are no other calls. -/
  exhausted : (∃ before p e s', Unresolved rs provided m params s before p e s') ∨
    ∃ arguments s', Resolves rs provided m params s arguments s' ∧
      ((∃ i e, f.takes.Unconverted params arguments i e) ∨ f.takes.Converted params arguments)
  /-- Whatever part of the state the resolvers leave alone is as it was, unless the function
  runs. -/
  untouched : ∀ (τ : Type) (look : σ → τ),
    (∀ r ∈ rs, ∀ p m s, look (r.resolve p m s).2 = look s) →
    .ran ∉ (f.watched params rs provided m s).2.2 →
      look (f.invoke params rs provided m s).2 = look s
  /-- A failure that puts the blame on the params is reported with the code for that. -/
  code : ∀ e b, (f.invoke params rs provided m s).1 = .error e → e = .ofBusError b →
    b.name ∈ ["MissingParameter", "DeserParam", "UnsupportedParameter"] →
      e.toDetails.code.code = -32602

theorem watched_of_unresolved (h : Unresolved rs provided m params s before p e s') :
    f.watched params rs provided m s =
      (.error e, s', (before ++ [p]).flatMap (askedFor rs provided)) :=
  invoke_of_unresolved h.noting

theorem watched_of_unconverted (h : Resolves rs provided m params s arguments s')
    (hconversion : f.takes.Unconverted params arguments i e) :
    f.watched params rs provided m s = (.error e, s', params.flatMap (askedFor rs provided)) :=
  invoke_of_unconverted (f := f.tracing) (h.noting []) hconversion

theorem watched_of_converted (h : Resolves rs provided m params s arguments s') {vs : f.Args}
    (hread : f.takes.read (params.zip arguments) = .value vs) :
    f.watched params rs provided m s =
      (((f.run vs s').1.bind (encode f.returns)).guarded, (f.run vs s').2,
        params.flatMap (askedFor rs provided) ++ [.ran]) :=
  invoke_of_converted (f := f.tracing) (h.noting []) hread

section Fitting

variable (hparams : params.length = f.takes.kinds.length)

include hparams

/-- A call is one of three kinds. -/
theorem phases_cases (rs : List (ArgumentResolver σ)) (provided : List Argument)
    (m : RequestMessage) (s : σ) :
    (∃ before p e s', Unresolved rs provided m params s before p e s') ∨
    ∃ arguments s', Resolves rs provided m params s arguments s' ∧
      ((∃ i e, f.takes.Unconverted params arguments i e) ∨
        f.takes.Converted params arguments) := by
  rcases resolves_or_unresolved rs provided m params s with ⟨arguments, s', hfound⟩ | hunresolved
  · refine .inr ⟨arguments, s', hfound, ?_⟩
    rcases f.takes.read_or_unconverted hparams hfound.length_eq with ⟨vs, hread⟩ | hunconverted
    · exact .inr (Parameters.converted_of_read hparams hread)
    · exact .inl hunconverted
  · exact .inl hunresolved

/-- What the resolvers leave alone is as it was after a call in which the function does not run. -/
theorem look_invoke {τ : Type} {look : σ → τ}
    (hlook : ∀ r ∈ rs, ∀ p m s, look (r.resolve p m s).2 = look s)
    (hran : .ran ∉ (f.watched params rs provided m s).2.2) :
    look (f.invoke params rs provided m s).2 = look s := by
  rcases phases_cases hparams rs provided m s with ⟨before, p, e, s', hunresolved⟩ |
    ⟨arguments, s', hfound, ⟨i, e, hunconverted⟩ | hconverted⟩
  · rw [invoke_of_unresolved hunresolved]
    exact hunresolved.look_eq hlook
  · rw [invoke_of_unconverted hfound hunconverted]
    exact hfound.look_eq hlook
  · obtain ⟨vs, hread⟩ := Parameters.read_of_converted hparams hfound.length_eq hconverted
    rw [watched_of_converted hfound hread] at hran
    exact absurd (List.mem_append_right _ List.mem_cons_self) hran

end Fitting

/-- A call of a function by a signature of its own goes through the phases. -/
theorem phased_of_fits {signature : Signature} (hfits : signature.Fits f)
    (rs : List (ArgumentResolver σ)) (provided : List Argument) (m : RequestMessage) (s : σ) :
    f.Phased signature.params rs provided m s := by
  have hparams : signature.params.length = f.takes.kinds.length := by
    rw [← hfits, List.length_map]
  refine
    { unresolved := fun _ _ _ _ h => ⟨invoke_of_unresolved h, watched_of_unresolved h⟩
      unconverted := fun _ _ _ _ hfound h =>
        ⟨invoke_of_unconverted hfound h, watched_of_unconverted hfound h⟩
      converted := ?_, exhausted := phases_cases hparams rs provided m s
      untouched := fun _ _ => look_invoke hparams, code := ?_ }
  · intro arguments s' hfound hconverted
    obtain ⟨vs, hread⟩ := Parameters.read_of_converted hparams hfound.length_eq hconverted
    refine ⟨vs, ?_, fun _ _ _ hv => Parameters.converts_of_read hread hv,
      invoke_of_converted hfound hread, watched_of_converted hfound hread⟩
    rw [Parameters.length_values, hparams]
  · rintro e b - rfl hname
    cases b <;> first | rfl | simp [BusError.name] at hname

end Function

/-- Every call of a handler and every call of an exception handler goes through the phases. -/
theorem Dispatcher.phased (x : Dispatcher σ) (request : RequestMessage) (s : σ) :
    (∀ h : Method σ,
      h.function.Phased h.info.signature.params x.argumentResolvers [] request s) ∧
    ∀ (eh : ExceptionHandler σ) i e,
      eh.function.Phased eh.signature.params x.argumentResolvers (provided i e) request s :=
  ⟨fun h => Function.phased_of_fits h.fits _ _ _ _,
    fun eh _ _ => Function.phased_of_fits eh.fits _ _ _ _⟩

/-- The first argument is no boolean, but the second is absent: that is what the call fails with,
after the library's third resolver was asked for both. -/
example :
    let f : Function Nat :=
      { id := "check"
        name := "check"
        takes := .cons (.decoding "bool" Json.Doc.asBool) (.cons (.json "f64") .none)
        returns := "()"
        run := fun _ n => (.value (.ok .null), n + 1) }
    let params := Param.giveNames f.signature.params ["flag", "size"]
    let m : RequestMessage :=
      ⟨{ method := "check", params := some (.object [("flag", .string "no")]) }, .empty⟩
    f.watched params ArgumentResolver.standard [] m 0 =
      (.error (.ofBusError (.missingParameter "size")), 0, params.map (.asked 2)) := by
  rfl

end Switchboard
