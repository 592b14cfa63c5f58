/-
# Switchboard.Proofs.Dispatch.Choosing -- who finds an argument and who deals with a value

A dispatcher asks several resolvers for arguments and several return handlers to deal with values,
in a fixed order: those of the application come after the library's resolvers, and between its two
return handlers. Whatever the application's own ones claim to support, they get neither a
parameter that is about the request nor a value that starts a subscription; of everything else, the
first one that supports it takes it.

`bindWith_append_of_request` and `bindWith_of_first` say so for parameters, `handleBy_of_first` and
the lemmas around it for values, and `distributes_new` puts everything together. Without resolvers
of the application every argument that is found is of the right shape (`Resolves.supplied`), so an
extractor of the library never meets one that it cannot take (`Extractor.Library.extract_cases`).
-/

import Mathlib.Data.List.Forall2
import Switchboard.Proofs.Dispatch.Course
import Switchboard.Proofs.Handler.Phases

namespace Switchboard

variable {σ : Type}

/-- What parameters are bound to that are about the request: its params, its headers and its id. -/
def Source.OfRequest (source : Source) : Prop :=
  source ∈ [.params, .headers, .sessionId, .requestId, .subscribeMethod]

instance (source : Source) : Decidable source.OfRequest :=
  inferInstanceAs (Decidable (source ∈ _))

/-- Of some strategies, the one in place `k` is the first that supports something. -/
structure First {α : Type} (supports : α → Bool) (l : List α) (k : Nat) (a : α) : Prop where
  /-- It stands in its place. -/
  stands : l[k]? = some a
  /-- It supports it. -/
  supported : supports a = true
  /-- None before it does. -/
  before : ∀ j < k, ∀ b, l[j]? = some b → supports b = false

namespace First

variable {α : Type} {supports : α → Bool} {l : List α} {k : Nat} {a : α}

theorem findIdx?_eq (h : First supports l k a) : l.findIdx? supports = some k := by
  obtain ⟨hk, hget⟩ := List.getElem?_eq_some_iff.1 h.stands
  rw [List.findIdx?_eq_some_iff_getElem]
  refine ⟨hk, hget ▸ h.supported, ?_⟩
  intro j hj
  exact Bool.eq_false_iff.1 (h.before j hj _ (List.getElem?_eq_getElem _))

theorem find?_eq (h : First supports l k a) : l.find? supports = some a := by
  obtain ⟨hk, hget⟩ := List.getElem?_eq_some_iff.1 h.stands
  rw [List.find?_eq_some_iff_getElem]
  refine ⟨h.supported, k, hk, hget, ?_⟩
  intro j hj
  rw [h.before j hj _ (List.getElem?_eq_getElem _)]
  rfl

/-- Or there is none. -/
theorem find?_eq_none_of (h : ∀ a ∈ l, supports a = false) : l.find? supports = none := by
  rw [List.find?_eq_none]
  intro a ha
  exact Bool.eq_false_iff.1 (h a ha)

end First

/-! ## Arguments -/

namespace ArgumentResolver

variable {own : List (ArgumentResolver σ)} {given : List Argument} {m : RequestMessage} {p : Param}
  {s s' : σ} {r : ArgumentResolver σ} {k : Nat}

/-- The library knows the parameters that are about the request, and no others. -/
theorem supported_standard_iff :
    supported (standard : List (ArgumentResolver σ)) p = true ↔ p.source.OfRequest := by
  cases hsource : p.source <;>
    simp [supported, standard, headers, requestId, params, ofFunction, hsource, Source.OfRequest]

section OfRequest

variable (hsource : p.source.OfRequest)

include hsource

/-- A parameter that is about the request is left to the library. -/
theorem bindWith_append_of_request :
    bindWith (standard ++ own) given m p s = bindWith standard given m p s := by
  have hfind : (standard ++ own).find? (fun r => r.supports p) =
      (standard : List (ArgumentResolver σ)).find? fun r => r.supports p := by
    rw [List.find?_append, Option.or_of_isSome]
    exact List.find?_isSome.2 (List.any_eq_true.1 (supported_standard_iff.2 hsource))
  unfold bindWith bind
  rw [hfind]

/-- It is the library's resolver that is asked for it. -/
theorem askedFor_append_of_request :
    askedFor (standard ++ own) given p =
      askedFor (standard : List (ArgumentResolver σ)) given p := by
  have hfind : asked? (standard ++ own) p = asked? (standard : List (ArgumentResolver σ)) p := by
    unfold asked?
    rw [List.findIdx?_append, Option.or_of_isSome]
    exact List.findIdx?_isSome.trans (supported_standard_iff.2 hsource)
  unfold askedFor
  rw [hfind]

end OfRequest

section Other

variable (hsource : ¬p.source.OfRequest)

include hsource

theorem supports_standard_of_not (hr : r ∈ standard) : r.supports p = false := by
  rw [Bool.eq_false_iff]
  intro hsupports
  exact hsource (supported_standard_iff.1 (List.any_eq_true.2 ⟨r, hr, hsupports⟩))

variable (hgiven : (given.find? fun a => a.suits p.source) = none)

include hgiven

/-- Any other parameter goes to the resolvers of the application. -/
theorem bindWith_append_of_not : bindWith (standard ++ own) given m p s = bind own m p s := by
  have hnone : (standard : List (ArgumentResolver σ)).find? (fun r => r.supports p) = none :=
    First.find?_eq_none_of fun _ hr => supports_standard_of_not hsource hr
  unfold bindWith bind
  rw [hgiven, List.find?_append, hnone, Option.none_or]

/-- They are asked in their places after the library's. -/
theorem askedFor_append_of_not :
    askedFor (standard ++ own) given p =
      (asked? own p).toList.map fun i => .asked (standard (σ := σ).length + i) p := by
  have hnone : (standard : List (ArgumentResolver σ)).findIdx? (fun r => r.supports p) = none := by
    rw [List.findIdx?_eq_none_iff]
    intro r hr
    exact supports_standard_of_not hsource hr
  unfold askedFor asked?
  rw [hgiven, List.findIdx?_append, hnone]
  cases own.findIdx? fun r => r.supports p with
  | none => rfl
  | some i => simp [Nat.add_comm]

theorem bindWith_of_first (h : First (fun r => r.supports p) own k r) (log : List Function.Event) :
    bindWith (standard ++ own) given m p s = r.resolve p m s ∧
    bindWith (notingFrom 0 (standard ++ own)) given m p (s, log) =
      ((r.resolve p m s).1, (r.resolve p m s).2,
        log ++ [.asked (standard (σ := σ).length + k) p]) := by
  have hbind : bindWith (standard ++ own) given m p s = r.resolve p m s := by
    rw [bindWith_append_of_not hsource hgiven, bind, h.find?_eq]
  refine ⟨hbind, ?_⟩
  rw [bindWith_notingFrom, hbind, askedFor_append_of_not hsource hgiven, asked?, h.findIdx?_eq]
  rfl

/-- No resolver is asked, and the parameter is refused, just if none supports it. -/
theorem bindWith_refused_iff (log : List Function.Event) :
    bindWith (notingFrom 0 (standard ++ own)) given m p (s, log) =
        (.failed (.unsupportedParameter p.index p.typeName), s, log) ↔
      ∀ r ∈ own, r.supports p = false := by
  have hasked : asked? own p = none ↔ ∀ r ∈ own, r.supports p = false := List.findIdx?_eq_none_iff
  rw [bindWith_notingFrom, bindWith_append_of_not hsource hgiven,
    askedFor_append_of_not hsource hgiven, ← hasked]
  constructor
  · intro h
    have hlog : log ++ (asked? own p).toList.map _ = log := congrArg (fun x => x.2.2) h
    simpa using hlog
  · intro hnone
    have hfind : own.find? (fun r => r.supports p) = none :=
      First.find?_eq_none_of (hasked.1 hnone)
    rw [bind, hfind, hnone]
    simp

/-- If the resolvers of the application do not refuse what they support, then a refusal says that
none supports the parameter. -/
theorem bindWith_fst_refused_iff
    (hown : ∀ r ∈ own, r.supports p = true → ∀ m s,
      (r.resolve p m s).1 ≠ .failed (.unsupportedParameter p.index p.typeName)) :
    (bindWith (standard ++ own) given m p s).1 =
        .failed (.unsupportedParameter p.index p.typeName) ↔
      ∀ r ∈ own, r.supports p = false := by
  rw [bindWith_append_of_not hsource hgiven, bind]
  cases hfind : own.find? fun r => r.supports p with
  | none =>
      refine iff_of_true rfl ?_
      intro r hr
      exact Bool.eq_false_iff.2 (List.find?_eq_none.1 hfind r hr)
  | some r =>
      have hr := List.mem_of_find?_eq_some hfind
      have hsupports : r.supports p = true := 
        List.find?_some (p := fun r : ArgumentResolver σ => r.supports p) hfind
      refine iff_of_false (hown r hr hsupports m s) ?_
      intro hnone
      rw [hnone r hr] at hsupports
      cases hsupports

end Other

end ArgumentResolver

/-! ## Returned values -/

namespace ReturnHandler

variable {own : List (ReturnHandler σ)} {value : Json} {type : ReturnType}
  {request : RequestMessage} {d : Desk σ} {k : Nat} {h : ReturnHandler σ}

/-- A value that starts a subscription is acknowledged by the library. -/
theorem handleBy_of_subscribing (htype : type.subscribeMethod.isSome = true) :
    handleBy ([subscribe] ++ own ++ [response]) value type request d =
      subscribe.handle value type request d := by
  have hsupports : (subscribe : ReturnHandler σ).supports type = true := htype
  simp [handleBy, hsupports]

section Other

variable (htype : type.subscribeMethod = none)

include htype

/-- Any other value goes to the application, and what nobody there supports is sent by the
library. -/
theorem find?_of_none :
    ([subscribe] ++ own ++ [response]).find? (fun h => h.supports type) =
      (own.find? fun h => h.supports type).or (some response) := by
  have hsubscribe : (subscribe : ReturnHandler σ).supports type = false := by
    simp [subscribe, htype]
  have hresponse : (response : ReturnHandler σ).supports type = true := rfl
  simp [hsubscribe, hresponse]

theorem handleBy_of_first (hfirst : First (fun h => h.supports type) own k h) :
    handleBy ([subscribe] ++ own ++ [response]) value type request d =
      h.handle value type request d := by
  rw [handleBy, find?_of_none htype, hfirst.find?_eq]
  rfl

theorem handleBy_of_unsupported (hown : ∀ h ∈ own, h.supports type = false) :
    handleBy ([subscribe] ++ own ++ [response]) value type request d =
      response.handle value type request d := by
  have hnone : own.find? (fun h => h.supports type) = none := First.find?_eq_none_of hown
  rw [handleBy, find?_of_none htype, hnone]
  rfl

end Other

/-- Every value is dealt with by a return handler that supports its type. -/
theorem handleBy_eq_handle (own : List (ReturnHandler σ)) (type : ReturnType) :
    ∃ h ∈ [subscribe] ++ own ++ [response], h.supports type = true ∧ ∀ value request d,
      handleBy ([subscribe] ++ own ++ [response]) value type request d =
        h.handle value type request d := by
  -- The last one supports every type.
  obtain ⟨h, hfind⟩ : ∃ h, ([subscribe] ++ own ++ [response]).find?
      (fun h : ReturnHandler σ => h.supports type) = some h := by
    rw [← Option.isSome_iff_exists, List.find?_isSome]
    exact ⟨response, by simp, rfl⟩
  refine ⟨h, List.mem_of_find?_eq_some hfind,
    List.find?_some (p := fun h : ReturnHandler σ => h.supports type) hfind, ?_⟩
  intro value request d
  rw [handleBy, hfind]

/-- That a type is not supported is never said by the library. -/
theorem own_of_unsupported {typeName : String}
    (h : (handleBy ([subscribe] ++ own ++ [response]) value type request d).1 =
      .failed (.unsupportedReturnType typeName)) :
    ∃ k ∈ own, k.supports type = true ∧
      (k.handle value type request d).1 = .failed (.unsupportedReturnType typeName) := by
  cases hown : own? own type with
  | none =>
      rw [handleBy_of_library hown] at h
      cases h
  | some k =>
      rw [handleBy_of_own hown] at h
      refine ⟨k, mem_of_own? hown, ?_, h⟩
      unfold own? at hown
      split at hown
      · cases hown
      · exact List.find?_some (p := fun k : ReturnHandler σ => k.supports type) hown

end ReturnHandler

/-! ## Arguments without resolvers of the application -/

/-- What a dispatcher provides: nothing to a handler, and to an exception handler the failure, its
cause and the handler that failed. -/
def Dispatcher.Gives (given : List Argument) : Prop :=
  given = [] ∨ ∃ i e, given = Dispatcher.provided i e

/-- An argument has the shape that goes with the source of a parameter, which is one that the
library knows. -/
structure Param.Supplied (p : Param) (a : Argument) : Prop where
  /-- The shape is the right one. -/
  suits : a.suits p.source = true
  /-- The source is known. -/
  known : ∀ name, p.source ≠ .custom name

namespace ArgumentResolver

variable {given arguments : List Argument} {m : RequestMessage} {p : Param} {ps : List Param}
  {a : Argument} {s s' : σ} {r : ArgumentResolver σ}

/-- The params are looked up as JSON. -/
theorem eq_json_of_paramsArgument (h : paramsArgument p m = .ok a) : ∃ v, a = .json v := by
  unfold paramsArgument at h
  split at h
  · cases h
    exact ⟨_, rfl⟩
  · split at h
    · cases h
      exact ⟨_, rfl⟩
    · split at h
      · cases h
      · cases h
        exact ⟨_, rfl⟩

/-- What the library's resolvers find for the parameters that they support is of the right
shape. -/
theorem suits_of_standard (hr : r ∈ standard) (hsupports : r.supports p = true)
    (h : (r.resolve p m s).1 = .value a) : a.suits p.source = true := by
  simp only [standard, List.mem_cons, List.not_mem_nil, or_false] at hr
  rcases hr with rfl | rfl | rfl
  · have hsource : p.source ∈ [Source.headers, .sessionId, .subscribeMethod] :=
      of_decide_eq_true hsupports
    cases h
    simp only [List.mem_cons, List.not_mem_nil, or_false] at hsource
    rcases hsource with hsource | hsource | hsource <;>
      simp [headerArgument, hsource, Argument.suits]
  · have hsource : p.source = .requestId := of_decide_eq_true hsupports
    cases h
    rw [hsource]
    rfl
  · have hsource : p.source = .params := of_decide_eq_true hsupports
    have hfound : Attempt.ofExcept (paramsArgument p m) = .value a := h
    cases hargument : paramsArgument p m with
    | error e => rw [hargument] at hfound; cases hfound
    | ok b =>
        rw [hargument] at hfound
        cases hfound
        obtain ⟨v, rfl⟩ := eq_json_of_paramsArgument hargument
        rw [hsource]
        rfl

/-- Neither the dispatcher nor the library finds anything else. -/
theorem supplied_of_bindWith_standard (hgiven : Dispatcher.Gives given)
    (h : bindWith (standard : List (ArgumentResolver σ)) given m p s = (.value a, s')) :
    p.Supplied a := by
  unfold bindWith at h
  cases hfind : given.find? fun a => a.suits p.source with
  | some b =>
      rw [hfind] at h
      cases h
      have hsuits : a.suits p.source = true :=
        List.find?_some (p := fun a : Argument => a.suits p.source) hfind
      refine ⟨hsuits, ?_⟩
      intro name hsource
      have hmem := List.mem_of_find?_eq_some hfind
      rw [hsource] at hsuits
      rcases hgiven with rfl | ⟨i, e, rfl⟩
      · cases hmem
      · simp only [Dispatcher.provided, List.mem_cons, List.not_mem_nil, or_false] at hmem
        rcases hmem with rfl | rfl | rfl <;> cases hsuits
  | none =>
      rw [hfind] at h
      dsimp only [bind] at h
      cases hstandard : (standard : List (ArgumentResolver σ)).find? fun r => r.supports p with
      | none => rw [hstandard] at h; cases h
      | some r =>
          rw [hstandard] at h
          have hr := List.mem_of_find?_eq_some hstandard
          have hsupports : r.supports p = true :=
            List.find?_some (p := fun r : ArgumentResolver σ => r.supports p) hstandard
          refine ⟨suits_of_standard hr hsupports (congrArg Prod.fst h), ?_⟩
          intro name hsource
          have hrequest := supported_standard_iff.1 (List.any_eq_true.2 ⟨r, hr, hsupports⟩)
          simp [Source.OfRequest, hsource] at hrequest

theorem Resolves.supplied (hgiven : Dispatcher.Gives given)
    (h : Resolves (standard : List (ArgumentResolver σ)) given m ps s arguments s') :
    List.Forall₂ Param.Supplied ps arguments := by
  induction h with
  | nil => exact .nil
  | cons first rest ih => exact .cons (supplied_of_bindWith_standard hgiven first) ih

/-- Arguments are found one after another whenever all of them are found. -/
theorem resolves_of_bindAll {rs : List (ArgumentResolver σ)}
    (h : bindAll rs given m ps s = (.value arguments, s')) :
    Resolves rs given m ps s arguments s' := by
  rcases resolves_or_unresolved rs given m ps s with ⟨found, s₁, hfound⟩ | ⟨_, _, _, _, hnone⟩
  · cases hfound.bindAll_eq.symm.trans h
    exact hfound
  · obtain ⟨r, hbind, hraises⟩ := hnone.bindAll_eq
    cases hbind.symm.trans h
    cases hraises

end ArgumentResolver

/-! ## The library's extractors -/

/-- The extractors of the library. -/
inductive Extractor.Library : {α : Type} → Extractor α → Prop
  /-- Raw params. -/
  | json (typeName : String) : Library (.json typeName)
  /-- Decoded params. -/
  | decoding {α : Type} (typeName : String) (decode : Json.Doc → Except Json.DecodeError α) :
    Library (.decoding typeName decode)
  /-- The headers. -/
  | headers (typeName : String) : Library (.headers typeName)
  /-- The session. -/
  | sessionId (typeName : String) : Library (.sessionId typeName)
  /-- The id of the request. -/
  | requestId (typeName : String) : Library (.requestId typeName)
  /-- The method of the notifications. -/
  | subscribeMethod (typeName : String) : Library (.subscribeMethod typeName)
  /-- The failure that is dealt with. -/
  | failure (typeName : String) : Library (.failure typeName)
  /-- The cause of the failure that is dealt with. -/
  | cause (typeName : String) : Library (.cause typeName)
  /-- The handler that failed. -/
  | handler (typeName : String) : Library (.handler typeName)

/-- From an argument of the right shape an extractor of the library makes a value, or it finds the
params to be bad. -/
theorem Extractor.Library.extract_cases {α : Type} {x : Extractor α} (h : x.Library) {p : Param}
    {a : Argument} (ha : a.suits x.source = true) :
    (∃ v, x.extract p a = .value v) ∨ ∃ name typeName reason,
      x.extract p a = .failed (.ofBusError (.badParameter name typeName reason)) := by
  cases h with
  | decoding typeName decode =>
      cases a with
      | json v =>
          unfold Extractor.extract Extractor.decoding
          dsimp only
          cases decode v.toDoc with
          | ok w => exact .inl ⟨w, rfl⟩
          | error e => exact .inr ⟨_, _, e, rfl⟩
      | _ => cases ha
  | _ => cases a <;> first | exact .inl ⟨_, rfl⟩ | cases ha

theorem Attempt.Raises.unique {ε α : Type} {into : ε → Failure} {r : Attempt ε α} {e e' : Failure}
    (h : r.Raises into e) (h' : r.Raises into e') : e' = e := by
  cases h <;> cases h' <;> rfl

namespace Parameters

variable {α : Type} {takes : Parameters α} {ps : List Param} {arguments : List Argument}
  {e : Failure}

theorem kinds_eq (takes : Parameters α) :
    takes.kinds = takes.extractors.map fun x => x.2.kind := by
  induction takes with
  | none => rfl
  | cons x rest ih => rw [kinds, extractors, List.map_cons, ih]

/-- Arguments cannot be read because of an extractor that is not content with an argument of the
right shape. -/
def Discontent {α : Type} (takes : Parameters α) (params : List Param) (arguments : List Argument)
    (e : Failure) : Prop :=
  ∃ (i : Nat) (β : Type) (x : Extractor β) (p : Param) (a : Argument),
    takes.extractors[i]? = some ⟨β, x⟩ ∧ params[i]? = some p ∧ arguments[i]? = some a ∧
      a.suits x.source = true ∧ (∀ name, x.source ≠ .custom name) ∧ (x.extract p a).Raises id e

/-- If all arguments are of the right shape, there is no other reason. -/
theorem discontent_of_raises (hkinds : ps.map Param.kind = takes.kinds)
    (hsupplied : List.Forall₂ Param.Supplied ps arguments)
    (h : (takes.read (ps.zip arguments)).Raises id e) : takes.Discontent ps arguments e := by
  have hps : ps.length = takes.kinds.length := by
    rw [← hkinds, List.length_map]
  rcases takes.read_or_unconverted hps hsupplied.length_eq.symm with ⟨vs, hread⟩ | ⟨i, e', hfirst⟩
  · rw [hread] at h
    cases h
  · cases h.unique hfirst.read_eq
    obtain ⟨-, β, r, ⟨x, p, a, hx, hp, ha, rfl⟩, hraises⟩ := hfirst
    obtain ⟨hsuits, hknown⟩ : p.Supplied a := by
      obtain ⟨hi, rfl⟩ := List.getElem?_eq_some_iff.1 hp
      obtain ⟨hj, rfl⟩ := List.getElem?_eq_some_iff.1 ha
      exact hsupplied.get hi hj
    -- The parameter is of the kind that the extractor declares.
    have hsource : x.source = p.source := by
      have hkind : (ps.map Param.kind)[i]? = takes.kinds[i]? := by rw [hkinds]
      rw [kinds_eq, List.getElem?_map, List.getElem?_map, hp, hx] at hkind
      exact (congrArg ParamKind.source (Option.some.inj hkind)).symm
    rw [← hsource] at hsuits hknown
    exact ⟨i, β, x, p, a, hx, hp, ha, hsuits, hknown, hraises⟩

/-- The extractors of the library are content, unless the params are bad. -/
theorem Discontent.badParameter (h : takes.Discontent ps arguments e)
    (hlibrary : ∀ x ∈ takes.extractors, x.2.Library ∨ ∃ name, x.2.source = .custom name) :
    ∃ name typeName reason, e = .ofBusError (.badParameter name typeName reason) := by
  obtain ⟨i, β, x, p, a, hx, -, -, hsuits, hknown, hraises⟩ := h
  rcases hlibrary ⟨β, x⟩ (List.mem_of_getElem? hx) with hx | ⟨name, hcustom⟩
  · rcases hx.extract_cases (p := p) hsuits with ⟨v, hv⟩ | ⟨name, typeName, reason, hbad⟩
    · rw [hv] at hraises
      cases hraises
    · rw [hbad] at hraises
      cases hraises
      exact ⟨name, typeName, reason, rfl⟩
  · exact absurd hcustom (hknown name)

end Parameters

/-! ## Dispatchers -/

namespace Dispatcher

open ArgumentResolver

variable {registry : Registry σ} {own : List (ArgumentResolver σ)}
  {ownReturn : List (ReturnHandler σ)}

/-- Who finds arguments and who deals with values in a dispatcher with the argument resolvers `own`
and the return handlers `ownReturn` of the application. -/
structure Distributes (x : Dispatcher σ) (own : List (ArgumentResolver σ))
    (ownReturn : List (ReturnHandler σ)) : Prop where
  /-- A parameter that is about the request is resolved as if the application had no resolvers. -/
  ofRequest : ∀ given m p s log, p.source.OfRequest →
    bindWith x.argumentResolvers given m p s = bindWith standard given m p s ∧
    bindWith (notingFrom 0 x.argumentResolvers) given m p (s, log) =
      bindWith (notingFrom 0 standard) given m p (s, log)
  /-- Any other that is not provided goes to the first resolver of the application that supports it,
  and nobody else is asked. -/
  first : ∀ given m p s log k r, ¬p.source.OfRequest →
    (given.find? fun a => a.suits p.source) = none → First (fun r => r.supports p) own k r →
    bindWith x.argumentResolvers given m p s = r.resolve p m s ∧
    bindWith (notingFrom 0 x.argumentResolvers) given m p (s, log) =
      ((r.resolve p m s).1, (r.resolve p m s).2,
        log ++ [.asked (standard (σ := σ).length + k) p])
  /-- It is refused, and nobody is asked, just if none supports it. -/
  refused : ∀ given m p s log, ¬p.source.OfRequest →
    (given.find? fun a => a.suits p.source) = none →
    (bindWith (notingFrom 0 x.argumentResolvers) given m p (s, log) =
        (.failed (.unsupportedParameter p.index p.typeName), s, log) ↔
      ∀ r ∈ own, r.supports p = false)
  /-- There is no other way to this error, unless a resolver of the application gives it for a
  parameter that it supports. -/
  refused_iff : ∀ given m p s, ¬p.source.OfRequest →
    (given.find? fun a => a.suits p.source) = none →
    (∀ r ∈ own, r.supports p = true → ∀ m s,
      (r.resolve p m s).1 ≠ .failed (.unsupportedParameter p.index p.typeName)) →
    ((bindWith x.argumentResolvers given m p s).1 =
        .failed (.unsupportedParameter p.index p.typeName) ↔
      ∀ r ∈ own, r.supports p = false)
  /-- A value that starts a subscription is acknowledged by the library. -/
  subscribing : ∀ value type request d, type.subscribeMethod.isSome = true →
    ReturnHandler.handleBy x.returnHandlers value type request d =
      ReturnHandler.subscribe.handle value type request d
  /-- Any other goes to the first return handler of the application that supports its type. -/
  firstReturn : ∀ value type request d k h, type.subscribeMethod = none →
    First (fun h => h.supports type) ownReturn k h →
    ReturnHandler.handleBy x.returnHandlers value type request d = h.handle value type request d
  /-- Without one it is sent as a response. -/
  otherwise : ∀ value type request d, type.subscribeMethod = none →
    (∀ h ∈ ownReturn, h.supports type = false) →
    ReturnHandler.handleBy x.returnHandlers value type request d =
      ReturnHandler.response.handle value type request d
  /-- So every type has its return handler, and only one of the application can say that a type is
  not supported. -/
  handled : ∀ type, ∃ h ∈ x.returnHandlers, h.supports type = true ∧ ∀ value request d,
    ReturnHandler.handleBy x.returnHandlers value type request d = h.handle value type request d
  unsupported : ∀ value type request d typeName,
    (ReturnHandler.handleBy x.returnHandlers value type request d).1 =
      .failed (.unsupportedReturnType typeName) →
    ∃ h ∈ ownReturn, h.supports type = true ∧
      (h.handle value type request d).1 = .failed (.unsupportedReturnType typeName)
  /-- Without resolvers of the application no function lacks an argument or gets one of the wrong
  shape. -/
  content : own = [] → ∀ (f : Function σ) (signature : Signature) given m s arguments s',
    signature.Fits f → Gives given →
    bindAll x.argumentResolvers given m signature.params s = (.value arguments, s') →
    List.Forall₂ Param.Supplied signature.params arguments ∧
    ∀ e, (f.takes.read (signature.params.zip arguments)).Raises id e →
      f.takes.Discontent signature.params arguments e
  /-- For an extractor of the library this leaves bad params as the one thing that it can fail
  with. -/
  readable : own = [] → ∀ (f : Function σ) (signature : Signature) given m s arguments s',
    signature.Fits f → Gives given →
    bindAll x.argumentResolvers given m signature.params s = (.value arguments, s') →
    (∀ x ∈ f.takes.extractors, x.2.Library ∨ ∃ name, x.2.source = .custom name) →
    f.takes.read (signature.params.zip arguments) ≠ .failed Parameters.tooFew ∧
    ∀ (a : Argument) p, f.takes.read (signature.params.zip arguments) ≠ .failed (a.mismatch p)

theorem supplied_of_bindAll_standard {f : Function σ} {signature : Signature}
    {given arguments : List Argument} {m : RequestMessage} {s s' : σ} (hfits : signature.Fits f)
    (hgiven : Gives given)
    (h : bindAll standard given m signature.params s = (.value arguments, s')) :
    List.Forall₂ Param.Supplied signature.params arguments ∧
    ∀ e, (f.takes.read (signature.params.zip arguments)).Raises id e →
      f.takes.Discontent signature.params arguments e := by
  have hsupplied := (resolves_of_bindAll h).supplied hgiven
  exact ⟨hsupplied, fun _ => Parameters.discontent_of_raises hfits hsupplied⟩

theorem distributes_new (registry : Registry σ) (own : List (ArgumentResolver σ))
    (ownReturn : List (ReturnHandler σ)) :
    (new registry own ownReturn).Distributes own ownReturn where
  ofRequest given m p s log hsource := by
    have hbind : bindWith (standard ++ own) given m p s = bindWith standard given m p s :=
      bindWith_append_of_request hsource
    refine ⟨hbind, ?_⟩
    show bindWith (notingFrom 0 (standard ++ own)) given m p (s, log) = _
    rw [bindWith_notingFrom, bindWith_notingFrom, hbind, askedFor_append_of_request hsource]
  first _ _ _ _ log _ _ hsource hgiven h := bindWith_of_first hsource hgiven h log
  refused _ _ _ _ log hsource hgiven := bindWith_refused_iff hsource hgiven log
  refused_iff _ _ _ _ hsource hgiven hown := bindWith_fst_refused_iff hsource hgiven hown
  subscribing _ _ _ _ htype := ReturnHandler.handleBy_of_subscribing htype
  firstReturn _ _ _ _ _ _ htype h := ReturnHandler.handleBy_of_first htype h
  otherwise _ _ _ _ htype hown := ReturnHandler.handleBy_of_unsupported htype hown
  handled := ReturnHandler.handleBy_eq_handle ownReturn
  unsupported _ _ _ _ _ h := ReturnHandler.own_of_unsupported h
  content := by
    rintro rfl f signature given m s arguments s' hfits hgiven hbind
    exact supplied_of_bindAll_standard hfits hgiven hbind
  readable := by
    rintro rfl f signature given m s arguments s' hfits hgiven hbind hlibrary
    have hbad : ∀ e, f.takes.read (signature.params.zip arguments) = .failed e →
        e.kind = .invalidParams := by
      intro e hread
      have hraises : (f.takes.read (signature.params.zip arguments)).Raises id e :=
        hread ▸ .failed e
      obtain ⟨_, _, _, rfl⟩ :=
        ((supplied_of_bindAll_standard hfits hgiven hbind).2 e hraises).badParameter hlibrary
      rfl
    have hne : ErrorKind.invalidState ≠ .invalidParams := by decide
    exact ⟨fun hread => hne (hbad _ hread), fun _ _ hread => hne (hbad _ hread)⟩

end Dispatcher

end Switchboard
