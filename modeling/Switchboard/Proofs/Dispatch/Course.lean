/-
# Switchboard.Proofs.Dispatch.Course -- the course of a request

How the handling of a request goes for a dispatcher with any return handlers of the application.
A value goes to the first of them that supports its type (`ReturnHandler.own?`), or else it is
dealt with as if there were none. With that, a call has one equation for each way it can go, and
so have the recovery from a failure (`recover_of_unchosen`, `recover_of_chosen`) and the dispatch
of a message that reaches a handler (`Reaches.dispatch_eq`).

`Failing` lists the ways in which a call fails, up to what is done with its value; `run_failed_iff`
says that there are no others.
-/

import Switchboard.Proofs.Dispatch.Provenance

namespace Switchboard

variable {σ : Type}

/-! ## Who deals with a value -/

namespace ReturnHandler

variable {own : List (ReturnHandler σ)} {k : ReturnHandler σ} {type : ReturnType}

/-- The return handler of the application that deals with the values of a type. Values that start
a subscription are not left to the application. -/
def own? (own : List (ReturnHandler σ)) (type : ReturnType) : Option (ReturnHandler σ) :=
  if type.subscribeMethod.isSome then none else own.find? fun k => k.supports type

theorem mem_of_own? (h : own? own type = some k) : k ∈ own := by
  unfold own? at h
  split at h
  · cases h
  · exact List.mem_of_find?_eq_some h

theorem handleBy_of_own (h : own? own type = some k) (value : Json) (request : RequestMessage)
    (d : Desk σ) :
    handleBy ([subscribe] ++ own ++ [response]) value type request d =
      k.handle value type request d := by
  unfold own? at h
  split at h
  · cases h
  · next hnone => simp [handleBy, subscribe, hnone, h]

theorem handleBy_of_library (h : own? own type = none) (value : Json) (request : RequestMessage)
    (d : Desk σ) :
    handleBy ([subscribe] ++ own ++ [response]) value type request d =
      (.value (), (bindSession type request d).post
        (Envelope.resultReply request value type (generatedId d.made))) := by
  rw [← handleBy_builtIn]
  unfold own? at h
  split at h
  · next hsome => simp [handleBy, subscribe, hsome]
  · next hnone => simp [handleBy, subscribe, response, hnone, h]

/-- A return handler never panics. -/
def Calm (k : ReturnHandler σ) : Prop :=
  ∀ value type request d p, (k.handle value type request d).1 ≠ .panicked p

end ReturnHandler

namespace Dispatcher

variable {x : Dispatcher σ} {own : List (ReturnHandler σ)} {request : RequestMessage}
  {s s₁ : State σ} {h : Method σ} {i : MethodInfo} {eh : ExceptionHandler σ} {e : Failure}
  {m : Inbound} {p : Panic}

/-! ## Calls -/

section Run

variable {f : Function σ} {params : List Param} {provided : List Argument} {type : ReturnType}
  {d : Desk σ} {app : σ} {v : Json}

/-- A return handler of the application panics on what a function gives. -/
def PanicsOn (x : Dispatcher σ) (own : List (ReturnHandler σ)) (f : Function σ)
    (params : List Param) (type : ReturnType) (provided : List Argument)
    (request : RequestMessage) (d : Desk σ) (p : Panic) : Prop :=
  ∃ v app k, f.invoke params x.argumentResolvers provided request d.app = (.ok v, app) ∧
    ReturnHandler.own? own type = some k ∧ (k.handle v type request { d with app }).1 = .panicked p

/-- The ways in which a call fails. -/
inductive Failing (x : Dispatcher σ) (f : Function σ) (params : List Param) (type : ReturnType)
    (provided : List Argument) (request : RequestMessage) (d : Desk σ) : Failure → Prop
  /-- An argument cannot be found. -/
  | binding {e : BusError} {app : σ}
      (h : ArgumentResolver.bindAll x.argumentResolvers provided request params d.app =
        (.failed e, app)) : Failing x f params type provided request d (.ofBusError e)
  /-- Looking for an argument panics. -/
  | bindingPanic {p : Panic} {app : σ}
      (h : ArgumentResolver.bindAll x.argumentResolvers provided request params d.app =
        (.panicked p, app)) : Failing x f params type provided request d (.ofPanic p)
  /-- An argument is not what the function takes. -/
  | extraction {arguments : List Argument} {e : Failure} {app : σ}
      (h : ArgumentResolver.bindAll x.argumentResolvers provided request params d.app =
        (.value arguments, app))
      (hread : f.takes.read (params.zip arguments) = .failed e) :
      Failing x f params type provided request d e
  /-- Reading an argument panics. -/
  | extractionPanic {arguments : List Argument} {p : Panic} {app : σ}
      (h : ArgumentResolver.bindAll x.argumentResolvers provided request params d.app =
        (.value arguments, app))
      (hread : f.takes.read (params.zip arguments) = .panicked p) :
      Failing x f params type provided request d (.ofPanic p)
  /-- The function gives an error. -/
  | returned {arguments : List Argument} {args : f.Args} {e : Failure} {app : σ}
      (h : ArgumentResolver.bindAll x.argumentResolvers provided request params d.app =
        (.value arguments, app))
      (hread : f.takes.read (params.zip arguments) = .value args)
      (hrun : (f.run args app).1 = .failed e) : Failing x f params type provided request d e
  /-- The function panics. -/
  | panicked {arguments : List Argument} {args : f.Args} {p : Panic} {app : σ}
      (h : ArgumentResolver.bindAll x.argumentResolvers provided request params d.app =
        (.value arguments, app))
      (hread : f.takes.read (params.zip arguments) = .value args)
      (hrun : (f.run args app).1 = .panicked p) :
      Failing x f params type provided request d (.ofPanic p)
  /-- What the function gives has no JSON form. -/
  | serialization {arguments : List Argument} {args : f.Args} {reason : String} {app : σ}
      (h : ArgumentResolver.bindAll x.argumentResolvers provided request params d.app =
        (.value arguments, app))
      (hread : f.takes.read (params.zip arguments) = .value args)
      (hrun : (f.run args app).1 = .value (.error reason)) :
      Failing x f params type provided request d (.ofBusError (.badResult f.returns reason))
  /-- A return handler gives an error. -/
  | handling {v : Json} {e : BusError} {app : σ}
      (h : f.invoke params x.argumentResolvers provided request d.app = (.ok v, app))
      (hhandle : (ReturnHandler.handleBy x.returnHandlers v type request { d with app }).1 =
        .failed e) : Failing x f params type provided request d (.ofBusError e)

theorem run_of_invoke_ok
    (h : f.invoke params x.argumentResolvers provided request d.app = (.ok v, app)) :
    x.run f params type provided request d =
      ((ReturnHandler.handleBy x.returnHandlers v type request { d with app }).1.mapError
          .ofBusError,
        (ReturnHandler.handleBy x.returnHandlers v type request { d with app }).2) := by
  unfold run
  rw [h]

/-- A call fails in one of these ways and in no other. -/
theorem run_failed_iff :
    (x.run f params type provided request d).1 = .failed e ↔
      x.Failing f params type provided request d e := by
  constructor
  · intro hfailed
    cases hinvoke : f.invoke params x.argumentResolvers provided request d.app with
    | mk result app =>
        cases result with
        | ok v =>
            rw [run_of_invoke_ok hinvoke] at hfailed
            cases hhandle : (ReturnHandler.handleBy x.returnHandlers v type request
                { d with app }).1 with
            | value u => rw [hhandle] at hfailed; cases hfailed
            | panicked p => rw [hhandle] at hfailed; cases hfailed
            | failed error =>
                rw [hhandle] at hfailed
                cases hfailed
                exact .handling hinvoke hhandle
        | error e' =>
            rw [run_of_error type hinvoke] at hfailed
            cases hfailed
            -- The call itself failed: in binding, in reading the arguments or after that.
            unfold Function.invoke at hinvoke
            split at hinvoke
            · next arguments app₁ hbind =>
                have hcall : (f.call params arguments app₁).1.guarded = .error e :=
                  congrArg Prod.fst hinvoke
                cases hread : f.takes.read (params.zip arguments) with
                | failed e₁ =>
                    rw [Function.call_of_failed hread] at hcall
                    cases hcall
                    exact .extraction hbind hread
                | panicked p =>
                    rw [Function.call_of_panicked hread] at hcall
                    cases hcall
                    exact .extractionPanic hbind hread
                | value args =>
                    rw [Function.call_of_value hread] at hcall
                    cases hrun : (f.run args app₁).1 with
                    | failed e₁ =>
                        rw [hrun] at hcall
                        cases hcall
                        exact .returned hbind hread hrun
                    | panicked p =>
                        rw [hrun] at hcall
                        cases hcall
                        exact .panicked hbind hread hrun
                    | value encoded =>
                        rw [hrun] at hcall
                        cases encoded with
                        | ok w => cases hcall
                        | error reason =>
                            cases hcall
                            exact .serialization hbind hread hrun
            · next error app₁ hbind =>
                cases hinvoke
                exact .binding hbind
            · next p app₁ hbind =>
                cases hinvoke
                exact .bindingPanic hbind
  · intro hfailing
    have hcalled : ∀ {arguments app₁ e}, ArgumentResolver.bindAll x.argumentResolvers provided
        request params d.app = (.value arguments, app₁) →
        (f.call params arguments app₁).1.guarded = .error e →
        (x.run f params type provided request d).1 = .failed e := by
      intro arguments app₁ e hbind hcall
      have hinvoke : f.invoke params x.argumentResolvers provided request d.app =
          (.error e, (f.call params arguments app₁).2) := by
        unfold Function.invoke
        rw [hbind]
        exact Prod.ext hcall rfl
      rw [run_of_error type hinvoke]
    cases hfailing with
    | binding hbind => simp only [run, Function.invoke, hbind]
    | bindingPanic hbind => simp only [run, Function.invoke, hbind]
    | extraction hbind hread =>
        exact hcalled hbind (by rw [Function.call_of_failed hread]; rfl)
    | extractionPanic hbind hread =>
        exact hcalled hbind (by rw [Function.call_of_panicked hread]; rfl)
    | returned hbind hread hrun =>
        exact hcalled hbind (by rw [Function.call_of_value hread, hrun]; rfl)
    | panicked hbind hread hrun =>
        exact hcalled hbind (by rw [Function.call_of_value hread, hrun]; rfl)
    | serialization hbind hread hrun =>
        exact hcalled hbind (by rw [Function.call_of_value hread, hrun]; rfl)
    | handling hinvoke hhandle => rw [run_of_invoke_ok hinvoke, hhandle]; rfl

section Own

variable (hx : x.returnHandlers = [.subscribe] ++ own ++ [.response])

include hx

/-- A value that an application's return handler deals with. -/
theorem run_of_own {k : ReturnHandler σ}
    (h : f.invoke params x.argumentResolvers provided request d.app = (.ok v, app))
    (hown : ReturnHandler.own? own type = some k) :
    x.run f params type provided request d =
      ((k.handle v type request { d with app }).1.mapError .ofBusError,
        (k.handle v type request { d with app }).2) := by
  rw [run_of_invoke_ok h, hx, ReturnHandler.handleBy_of_own hown]

/-- A value that none of the application's return handlers deals with. -/
theorem run_of_library
    (h : f.invoke params x.argumentResolvers provided request d.app = (.ok v, app))
    (hown : ReturnHandler.own? own type = none) :
    x.run f params type provided request d =
      (.value (), (ReturnHandler.bindSession type request { d with app }).post
        (Envelope.resultReply request v type (generatedId d.made))) := by
  rw [run_of_invoke_ok h, hx, ReturnHandler.handleBy_of_library hown]
  rfl

/-- A call panics only by a return handler of the application. -/
theorem run_panicked_iff :
    (x.run f params type provided request d).1 = .panicked p ↔
      x.PanicsOn own f params type provided request d p := by
  constructor
  · intro hpanic
    cases hinvoke : f.invoke params x.argumentResolvers provided request d.app with
    | mk result app =>
        cases result with
        | error e => rw [run_of_error type hinvoke] at hpanic; cases hpanic
        | ok v =>
            cases hown : ReturnHandler.own? own type with
            | none => rw [run_of_library hx hinvoke hown] at hpanic; cases hpanic
            | some k =>
                rw [run_of_own hx hinvoke hown] at hpanic
                refine ⟨v, app, k, hinvoke, hown, ?_⟩
                cases hhandle : (k.handle v type request { d with app }).1 with
                | value u => rw [hhandle] at hpanic; cases hpanic
                | failed e => rw [hhandle] at hpanic; cases hpanic
                | panicked q => rw [hhandle] at hpanic; cases hpanic; rfl
  · rintro ⟨v, app, k, hinvoke, hown, hpanic⟩
    rw [run_of_own hx hinvoke hown, hpanic]
    rfl

/-- A call that fails sends nothing, if the application's return handlers do not. -/
theorem outbox_of_run_failed (hsilent : ∀ k ∈ own, k.Silent)
    (h : s.onDesk (x.run f params type provided request) = (.failed e, s₁)) :
    s₁.desk.outbox = s.desk.outbox := by
  have hrun : x.run f params type provided request s.desk =
      ((s.onDesk (x.run f params type provided request)).1,
        (s.onDesk (x.run f params type provided request)).2.desk) := rfl
  rw [h] at hrun
  cases hinvoke : f.invoke params x.argumentResolvers provided request s.desk.app with
  | mk result app =>
      cases result with
      | error e' =>
          rw [run_of_error type hinvoke] at hrun
          rw [show s₁.desk = _ from (congrArg Prod.snd hrun).symm]
      | ok v =>
          cases hown : ReturnHandler.own? own type with
          | none =>
              rw [run_of_library hx hinvoke hown] at hrun
              cases congrArg Prod.fst hrun
          | some k =>
              rw [run_of_own hx hinvoke hown] at hrun
              rw [show s₁.desk = _ from (congrArg Prod.snd hrun).symm]
              exact hsilent k (ReturnHandler.mem_of_own? hown) v type request _

end Own

end Run

/-! ## Handling and recovering -/

/-- Calls a handler and deals with what it gives. -/
def attempt (x : Dispatcher σ) (h : Method σ) (request : RequestMessage) (s : State σ) :
    Attempt Failure Unit × State σ :=
  s.onDesk (x.run h.function h.info.signature.params h.info.returnType [] request)

/-- Calls an exception handler for the failure of a handler and deals with what it gives. -/
def attemptRecovery (x : Dispatcher σ) (i : MethodInfo) (e : Failure) (eh : ExceptionHandler σ)
    (request : RequestMessage) (s : State σ) : Attempt Failure Unit × State σ :=
  s.onDesk (x.run eh.function eh.signature.params eh.returnType (provided i e) request)

/-- The exception handler for the failure of a handler; only one that has an owner has any. -/
def chosen? (x : Dispatcher σ) (i : MethodInfo) (e : Failure) (s : State σ) :
    Option (ExceptionHandler σ) × State σ :=
  match i.owner with
  | none => (none, s)
  | some owner => x.exceptionHandler? owner e s

/-- Choosing an exception handler leaves the desk alone. -/
@[simp] theorem desk_chosen? (x : Dispatcher σ) (i : MethodInfo) (e : Failure) (s : State σ) :
    (x.chosen? i e s).2.desk = s.desk := by
  unfold chosen?
  split <;> rfl

/-- What becomes of a failure that no exception handler deals with. -/
def fallBack (request : RequestMessage) (e : Failure) (s : State σ) :
    Except Panic Outcome × State σ :=
  (.ok .defaultError, s.post (Envelope.errorReply request e.toDetails (generatedId s.desk.made)))

theorem defaultError_eq (request : RequestMessage) (e : Failure) (s : State σ) :
    (Except.ok (defaultError request e s).1, (defaultError request e s).2) =
      (fallBack request e s : Except Panic Outcome × State σ) := by
  unfold defaultError fallBack
  rw [sendError_eq]
  rfl

theorem recover_of_unchosen (h : x.chosen? i e s = (none, s₁)) (request : RequestMessage) :
    x.recover i request e s = fallBack request e s₁ := by
  rw [← defaultError_eq]
  cases howner : i.owner with
  | none =>
      simp only [chosen?, howner] at h
      cases h
      simp only [recover, howner]
  | some owner =>
      simp only [chosen?, howner] at h
      simp only [recover, howner, h]

/-- The one exception handler that is chosen decides; if it fails, the first failure is the
answer. -/
theorem recover_of_chosen (h : x.chosen? i e s = (some eh, s₁)) (request : RequestMessage) :
    x.recover i request e s =
      match x.attemptRecovery i e eh request s₁ with
      | (.value _, s) => (.ok .exceptionHandled, s)
      | (.failed _, s) => fallBack request e s
      | (.panicked p, s) => (.error p, s) := by
  simp only [← defaultError_eq]
  cases howner : i.owner with
  | none =>
      simp only [chosen?, howner] at h
      cases h
  | some owner =>
      simp only [chosen?, howner] at h
      cases hattempt : x.attemptRecovery i e eh request s₁ with
      | mk result s₂ =>
          unfold attemptRecovery at hattempt
          cases result <;> simp only [recover, howner, h, hattempt]

theorem handle_of_value {u : Unit} (h₁ : x.attempt h request s = (.value u, s₁)) :
    x.handle h request s = (.ok .responded, s₁) := by
  unfold attempt at h₁
  unfold handle
  rw [h₁]

theorem handle_of_failed (h₁ : x.attempt h request s = (.failed e, s₁)) :
    x.handle h request s = x.recover h.info request e s₁ := by
  unfold attempt at h₁
  unfold handle
  rw [h₁]

theorem handle_of_panicked (h₁ : x.attempt h request s = (.panicked p, s₁)) :
    x.handle h request s = (.error p, s₁) := by
  unfold attempt at h₁
  unfold handle
  rw [h₁]

/-! ## Messages that reach a handler -/

/-- A message is a request for a registered handler. -/
def Reaches (x : Dispatcher σ) (m : Inbound) (s : State σ) (h : Method σ)
    (request : RequestMessage) : Prop :=
  ∃ destination r, Envelope.destination? m = some destination ∧
    Request.decode m.payload.toDoc = .ok r ∧ x.registry.get? destination = some h ∧
    request = Envelope.requestFor m r (some h.info) (generatedId s.desk.made)

theorem Reaches.dispatch_eq (hreach : x.Reaches m s h request) :
    x.dispatch m s = x.handle h request s.fresh := by
  obtain ⟨destination, r, hto, hr, hget, rfl⟩ := hreach
  exact dispatch_of_registered hto hr hget

theorem Reaches.unique {h' : Method σ} {request' : RequestMessage}
    (hreach : x.Reaches m s h request) (hreach' : x.Reaches m s h' request') :
    h' = h ∧ request' = request := by
  obtain ⟨destination, r, hto, hr, hget, rfl⟩ := hreach
  obtain ⟨destination', r', hto', hr', hget', rfl⟩ := hreach'
  rw [hto] at hto'
  cases hto'
  rw [hr] at hr'
  cases hr'
  rw [hget] at hget'
  cases hget'
  exact ⟨rfl, rfl⟩

/-- Any other message ends in an outcome, which is not that of a handler; at most one reply is sent,
and nothing else happens. -/
theorem dispatch_of_unreached (hnone : ∀ h request, ¬x.Reaches m s h request) :
    ∃ outcome, outcome ≠ .responded ∧ (x.dispatch m s = (.ok outcome, s) ∨
      ∃ reply, x.dispatch m s = (.ok outcome, s.fresh.post reply)) := by
  cases hto : Envelope.destination? m with
  | none => exact ⟨.ignored, nofun, .inl (dispatch_of_ignored hto)⟩
  | some destination =>
      cases hr : Request.decode m.payload.toDoc with
      | error e => exact ⟨.defaultError, nofun, .inr ⟨_, dispatch_of_invalid hto hr⟩⟩
      | ok r =>
          cases hget : x.registry.get? destination with
          | none => exact ⟨.notFound, nofun, .inr ⟨_, dispatch_of_unregistered hto hr hget⟩⟩
          | some h => exact absurd ⟨destination, r, hto, hr, hget, rfl⟩ (hnone h _)

/-! ## What lasts through a dispatch -/

section Lasting

variable {P : State σ → Prop} (hpost : ∀ t reply, P t → P (t.post reply))

include hpost

/-- What holds after the choice of an exception handler holds after the recovery, if neither a call
of an exception handler nor a reply ends it. -/
theorem recover_preserves (hchosen : P (x.chosen? i e s).2)
    (hcall : ∀ eh t, P t → P (x.attemptRecovery i e eh request t).2) :
    P (x.recover i request e s).2 := by
  cases hchoice : x.chosen? i e s with
  | mk choice s₁ =>
      rw [hchoice] at hchosen
      cases choice with
      | none =>
          rw [recover_of_unchosen hchoice]
          exact hpost _ _ hchosen
      | some eh =>
          have hcalled := hcall eh s₁ hchosen
          rw [recover_of_chosen hchoice]
          cases hattempt : x.attemptRecovery i e eh request s₁ with
          | mk result s₂ =>
              rw [hattempt] at hcalled
              cases result with
              | value u => exact hcalled
              | failed e' => exact hpost _ _ hcalled
              | panicked p => exact hcalled

/-- What holds before a dispatch holds after it, if none of its steps ends it: the call of the
handler, the choice of an exception handler, its call and the replies. -/
theorem dispatch_preserves (hs : P s) (hfresh : P s → P s.fresh)
    (hhandler : ∀ h request, x.Reaches m s h request → P s.fresh →
      P (x.attempt h request s.fresh).2)
    (hchoice : ∀ h request e s₁, x.Reaches m s h request →
      x.attempt h request s.fresh = (.failed e, s₁) → P s₁ → P (x.chosen? h.info e s₁).2)
    (hcall : ∀ i e eh request t, P t → P (x.attemptRecovery i e eh request t).2) :
    P (x.dispatch m s).2 := by
  by_cases hreach : ∃ h request, x.Reaches m s h request
  · obtain ⟨h, request, hreach⟩ := hreach
    have hhandled := hhandler h request hreach (hfresh hs)
    rw [hreach.dispatch_eq]
    cases hattempt : x.attempt h request s.fresh with
    | mk result s₁ =>
        rw [hattempt] at hhandled
        cases result with
        | value u =>
            rw [handle_of_value hattempt]
            exact hhandled
        | panicked p =>
            rw [handle_of_panicked hattempt]
            exact hhandled
        | failed e =>
            rw [handle_of_failed hattempt]
            exact recover_preserves hpost (hchoice h request e s₁ hreach hattempt hhandled)
              fun eh t => hcall h.info e eh request t
  · rcases dispatch_of_unreached fun h request hr => hreach ⟨h, request, hr⟩ with
      ⟨outcome, _, heq | ⟨reply, heq⟩⟩
    · rw [heq]
      exact hs
    · rw [heq]
      exact hpost _ _ (hfresh hs)

end Lasting

end Dispatcher

end Switchboard
