/-
# Switchboard.Proofs.Dispatch.Scoping -- whose exception handlers deal with a failure

Methods and exception handlers are declared together in groups, but what is kept of a group's
exception handlers is kept by owner, and each step on the way looks at the owner alone: the
registry, the memory of resolvers, and the dispatcher, which asks for the exception handlers of the
owner of the handler that failed. An owner has the exception handlers of the first group that is
registered for it (`exceptionHandlersOf_ofGroups`); those of a later group of the same owner are
forgotten.

`dispatch_scoped` says what this comes to. After any history of dispatches the exception handler
for a failure is the best match among those of the owner's first group. So it is the best match
among those of the handler's own group if that group is `Kept`.
-/

import Switchboard.Proofs.Dispatch.Independence
import Switchboard.Proofs.Dispatch.Watching
import Switchboard.Proofs.Registry.Ambiguity

namespace Switchboard

variable {σ : Type}

/-! ## What a registry keeps of groups -/

/-- The exception handlers of a group as candidates. -/
def Group.candidates (g : Group σ) : List (List ErrorKind × ExceptionHandler σ) :=
  g.exceptionHandlers.map fun h => (h.kinds, h)

namespace Registry

variable {mapping : Mapping σ} {gs : List (Group σ)} {g : Group σ} {r : Registry σ}
  {owner d : String} {h m : Method σ}

/-- The first of some groups that an owner has. -/
def firstOf? (gs : List (Group σ)) (owner : String) : Option (Group σ) :=
  gs.find? fun g => g.owner = owner

/-- A group's exception handlers are kept: no other ones stand in the first group of its owner. -/
def Kept (gs : List (Group σ)) (g : Group σ) : Prop :=
  ∀ first, firstOf? gs g.owner = some first → first.exceptionHandlers = g.exceptionHandlers

theorem exists_firstOf? (hg : g ∈ gs) : ∃ first, firstOf? gs g.owner = some first := by
  cases hfirst : firstOf? gs g.owner with
  | some first => exact ⟨first, rfl⟩
  | none =>
      have hother := List.find?_eq_none.1 hfirst g hg
      simp at hother

/-- Exception handlers that are added for an owner that has some are not taken in. -/
theorem find?_foldl_insertNew (gs : List (Group σ)) (d : Dict (List (ExceptionHandler σ)))
    (owner : String) :
    (gs.foldl (fun d g => d.insertNew g.owner g.exceptionHandlers) d).find? owner =
      (d.find? owner).or ((firstOf? gs owner).map Group.exceptionHandlers) := by
  induction gs generalizing d with
  | nil =>
      show d.find? owner = (d.find? owner).or none
      rw [Option.or_none]
  | cons g gs ih =>
      rw [List.foldl_cons, ih, Dict.find?_insertNew]
      by_cases howner : owner = g.owner
      · subst howner
        rw [if_pos rfl, show firstOf? (g :: gs) g.owner = some g by simp [firstOf?]]
        cases d.find? g.owner <;> rfl
      · rw [if_neg howner, show firstOf? (g :: gs) owner = firstOf? gs owner by
          simp [firstOf?, Ne.symm howner]]

/-- An owner has the exception handlers of its first group. -/
theorem exceptionHandlersOf_ofGroups (hreg : ofGroups mapping gs = .ok r) {first : Group σ}
    (hfirst : firstOf? gs owner = some first) :
    r.exceptionHandlersOf owner = first.exceptionHandlers := by
  unfold exceptionHandlersOf
  rw [exceptionHandlers_registerGroups hreg, find?_foldl_insertNew, hfirst]
  rfl

/-- The handler of a destination belongs to the owner of every group that has a method there. -/
theorem owner_of_mapped (hreg : ofGroups mapping gs = .ok r) (hget : r.get? d = some h)
    (hg : g ∈ gs) (hm : m ∈ g.methods) (hd : mapping m g = some d) :
    h.info.owner = some g.owner := by
  have hholds := holds_of_ofGroups hreg
  obtain ⟨first, hfirst, rfl⟩ := hholds.stored hget
  -- All methods that go to one destination are the same handler, so they have one owner.
  have hsame := unambiguous_iff_agrees.2 hholds.agrees (d, first) (Entries.mem_of_find? hfirst)
    (d, m) (mem_mappings_iff.2 ⟨g, hg, hm, hd⟩) rfl
  rw [← g.owned m hm]
  exact (MethodInfo.isSame_iff.1 hsame).1

/-- The kinds of failures of a registry are those of the library and of its groups' methods. -/
theorem coherentOn_raises (hreg : ofGroups mapping gs = .ok r) (ks : List ErrorKind)
    (hks : ErrorKind.Coherent (ks ++ ErrorKind.builtin))
    (hfails : ∀ g ∈ gs, ∀ m ∈ g.methods, ∀ e, m.function.Fails e → ∀ k ∈ e.kinds, k ∈ ks) :
    ErrorKind.CoherentOn r.Raises := by
  have hmem : ∀ k, r.Raises k → k ∈ ks ++ ErrorKind.builtin := by
    rintro k (hown | ⟨d, h, e, hget, hfail, hk⟩)
    · exact List.mem_append_right _ hown
    · obtain ⟨first, hfirst, rfl⟩ := (holds_of_ofGroups hreg).stored hget
      obtain ⟨g, hg, hm, _⟩ := mem_mappings_iff.1 (Entries.mem_of_find? hfirst)
      exact List.mem_append_left _ (hfails g hg first hm e hfail k hk)
  exact fun k l hk hl hname => hks k (hmem k hk) l (hmem l hl) hname

end Registry

/-! ## Whose exception handlers are asked -/

namespace Dispatcher

variable {x : Dispatcher σ} {registry : Registry σ} {s : State σ} {i : MethodInfo} {e : Failure}

/-- The exception handler for the failure `e` of the handler `i` is found among those of a group;
`s` is the state after the failure. -/
structure ScopedTo (x : Dispatcher σ) (g : Group σ) (i : MethodInfo) (request : RequestMessage)
    (e : Failure) (s : State σ) : Prop where
  /-- It is the best match among them. -/
  chosen_iff : ∀ eh, (x.chosen? i e s).1 = some eh ↔
    Choice.Selected (Resolver.declared g.candidates) e eh
  /-- There is none just when none of them is declared for the failure or one of its causes. -/
  unchosen_iff : (x.chosen? i e s).1 = none ↔
    ∀ l ∈ e.chain, Choice.Undeclared (Resolver.declared g.candidates) l.kind
  /-- It is declared in the group. -/
  declared : ∀ eh, (x.chosen? i e s).1 = some eh → eh ∈ g.exceptionHandlers
  /-- No other exception handler is called. -/
  called : x.recoveryCall i e request s = [] ∨ ∃ eh ∈ g.exceptionHandlers,
    Choice.Selected (Resolver.declared g.candidates) e eh ∧
    x.recoveryCall i e request s = [.recovery eh.signature]

/-- The choice for an owner, if the memory is right, is by the rule among the exception handlers
of the owner. -/
theorem scopedTo_of_faithful {g : Group σ} {owner : String}
    (hK : ErrorKind.CoherentOn x.registry.Raises) (hs : s.Faithful x.registry)
    (he : ∀ k ∈ e.kinds, x.registry.Raises k) (howner : i.owner = some owner)
    (hof : x.registry.exceptionHandlersOf owner = g.exceptionHandlers) (request : RequestMessage) :
    x.ScopedTo g i request e s := by
  have hfor : (x.chosen? i e s).1 = x.registry.exceptionHandlerFor? owner e := by
    unfold chosen?
    rw [howner]
    exact (exceptionHandler?_spec hK hs owner he).1
  have hrule : (x.chosen? i e s).1 = (Resolver.ofCandidates g.candidates).resolveAfresh e := by
    rw [hfor]
    unfold Registry.exceptionHandlerFor? Registry.candidates Group.candidates
    rw [hof]
  have hchosen : ∀ eh, (x.chosen? i e s).1 = some eh ↔
      Choice.Selected (Resolver.declared g.candidates) e eh := by
    intro eh
    rw [hrule]
    exact Resolver.resolveAfresh_eq_some_iff
  have hdeclared : ∀ eh, (x.chosen? i e s).1 = some eh → eh ∈ g.exceptionHandlers := by
    intro eh heh
    rw [← hof]
    exact Registry.mem_of_exceptionHandlerFor? (hfor.symm.trans heh)
  refine ⟨hchosen, ?_, hdeclared, ?_⟩
  · rw [hrule]
    exact Resolver.resolveAfresh_eq_none_iff
  · rcases recoveryCall_cases x i e request s with hnone | ⟨eh, s₁, heh, hcall⟩
    · exact .inl hnone
    · have hfst : (x.chosen? i e s).1 = some eh := by rw [heh]
      exact .inr ⟨eh, hdeclared eh hfst, (hchosen eh).1 hfst, hcall⟩

/-- After any history of dispatches, the failure of a handler goes to the exception handlers of
its owner's first group. They are those of each group that declares the handler and is kept, and
the registry has all of these. -/
theorem dispatch_scoped {mapping : Mapping σ} {gs : List (Group σ)}
    (hreg : Registry.ofGroups mapping gs = .ok registry)
    (hK : ErrorKind.CoherentOn registry.Raises) (resolvers : List (ArgumentResolver σ))
    (own : List (ReturnHandler σ)) (earlier : List Inbound) (d : Desk σ) :
    let x := Dispatcher.new registry resolvers own
    let s := x.after earlier { desk := d }
    ∀ m h request e, x.Reaches m s h request →
      x.Failing h.function h.info.signature.params h.info.returnType [] request s.fresh.desk e →
      ∃ s₁, x.attempt h request s.fresh = (.failed e, s₁) ∧
        (∃ g ∈ gs, ∃ method ∈ g.methods, mapping method g = Envelope.destination? m) ∧
        ∀ g ∈ gs, ∀ method ∈ g.methods, mapping method g = Envelope.destination? m →
          (∃ first ∈ gs, Registry.firstOf? gs g.owner = some first ∧
            x.ScopedTo first h.info request e s₁) ∧
          (Registry.Kept gs g → x.ScopedTo g h.info request e s₁ ∧
            registry.exceptionHandlersOf g.owner = g.exceptionHandlers) := by
  intro x s m h request e hreach hfailing
  have hfst : (x.attempt h request s.fresh).1 = .failed e := run_failed_iff.2 hfailing
  obtain ⟨s₁, hfailed⟩ : ∃ s₁, x.attempt h request s.fresh = (.failed e, s₁) :=
    ⟨_, Prod.ext hfst rfl⟩
  have hs : s.Faithful registry :=
    faithful_after (x := x) hK earlier ResolverCache.faithful_empty
  have hs₁ : s₁.Faithful registry := by
    have hcalled : (x.attempt h request s.fresh).2.Faithful registry := hs
    rwa [hfailed] at hcalled
  obtain ⟨destination, r, hto, _, hget, _⟩ := hreach
  have hraised : ∀ k ∈ e.kinds, registry.Raises k := raises_of_attempt (x := x) hget hfst
  refine ⟨s₁, hfailed, ?_, ?_⟩
  · obtain ⟨_, _, _, _, g, hg, hm, hd⟩ := (Registry.registration_ofGroups mapping gs).stored
      registry hreg destination h hget
    exact ⟨g, hg, _, hm, by rw [hd, hto]⟩
  · intro g hg method hm hd
    have howner := Registry.owner_of_mapped hreg hget hg hm (by rw [hd, hto])
    obtain ⟨first, hfirst⟩ := Registry.exists_firstOf? hg
    have hof := Registry.exceptionHandlersOf_ofGroups hreg hfirst
    refine ⟨⟨first, List.mem_of_find?_eq_some hfirst, hfirst,
      scopedTo_of_faithful (x := x) hK hs₁ hraised howner hof request⟩, fun hkept => ?_⟩
    have hown : registry.exceptionHandlersOf g.owner = g.exceptionHandlers :=
      hof.trans (hkept first hfirst)
    exact ⟨scopedTo_of_faithful (x := x) hK hs₁ hraised howner hown request, hown⟩

/-- A group with a handler that refuses payments and one that explains refusals. -/
def frontTill : Group Nat := ((Group.new "Till").withMethod refuse).withExceptionHandler explain

/-- A group of the same owner without exception handlers. -/
def backTill : Group Nat := (Group.new "Till").withMethod (.request "close" refuse.function)

/-- Where the group of a handler is the only one of its owner, a refusal is explained, also the
second time. -/
theorem dispatch_scoped_payment :
    ∃ registry, Registry.ofGroups .standard [frontTill] = .ok registry ∧
      ErrorKind.CoherentOn registry.Raises ∧ Registry.Kept [frontTill] frontTill ∧
      let x := Dispatcher.new registry [] []
      let s := x.after [payment] { desk := { app := 0 } }
      ∃ h request s₁, x.Reaches payment s h request ∧
        x.attempt h request s.fresh = (.failed (.new refusal "no"), s₁) ∧
        x.ScopedTo frontTill h.info request (.new refusal "no") s₁ ∧
        (x.chosen? h.info (.new refusal "no") s₁).1 = some explain := by
  obtain ⟨registry, h, request, hreg, hreach, hfailing⟩ :
      ∃ registry h request, Registry.ofGroups .standard [frontTill] = .ok registry ∧
        let x := Dispatcher.new registry [] []
        let s := x.after [payment] { desk := { app := 0 } }
        x.Reaches payment s h request ∧
        x.Failing h.function h.info.signature.params h.info.returnType [] request s.fresh.desk
          (.new refusal "no") :=
    ⟨_, _, _, rfl, ⟨"pay", _, rfl, rfl, rfl, rfl⟩, .returned rfl rfl rfl⟩
  have hK : ErrorKind.CoherentOn registry.Raises := by
    refine Registry.coherentOn_raises hreg [refusal] (by decide) ?_
    rintro g hg m hm e ⟨_, _, _, hfails⟩ k hk
    rw [List.mem_singleton.1 hg] at hm
    rw [List.mem_singleton.1 (show m ∈ [refuse.withOwner "Till"] from hm)] at hfails
    cases hfails
    exact hk
  have hkept : Registry.Kept [frontTill] frontTill := by
    intro first hfirst
    rw [List.mem_singleton.1 (List.mem_of_find?_eq_some hfirst)]
  obtain ⟨s₁, hfailed, _, hscoped⟩ := dispatch_scoped hreg hK [] [] [payment] { app := 0 } payment
    h request _ hreach hfailing
  have hfront := ((hscoped frontTill List.mem_cons_self (refuse.withOwner "Till")
    List.mem_cons_self rfl).2 hkept).1
  exact ⟨registry, hreg, hK, hkept, h, request, s₁, hreach, hfailed, hfront,
    (hfront.chosen_iff explain).2 (Resolver.resolveAfresh_eq_some_iff.1 rfl)⟩

/-- After another group of the same owner the group's exception handler is dropped. A refusal, for
which it is declared, is not explained. -/
theorem forgotten_explain :
    ∃ registry, Registry.ofGroups .standard [backTill, frontTill] = .ok registry ∧
      explain ∈ frontTill.exceptionHandlers ∧
      Choice.Selected (Resolver.declared frontTill.candidates) (.new refusal "no") explain ∧
      registry.exceptionHandlersOf frontTill.owner = [] ∧
      let x := Dispatcher.new registry [] []
      let s : State Nat := { desk := { app := 0 } }
      ∃ h request s₁, x.Reaches payment s h request ∧
        x.attempt h request s.fresh = (.failed (.new refusal "no"), s₁) ∧
        (x.chosen? h.info (.new refusal "no") s₁).1 = none ∧
        (x.dispatch payment s).1 = .ok .defaultError :=
  ⟨_, rfl, List.mem_cons_self, Resolver.resolveAfresh_eq_some_iff.1 rfl, rfl, _, _, _,
    ⟨"pay", _, rfl, rfl, rfl, rfl⟩, rfl, rfl, rfl⟩

end Dispatcher

end Switchboard
