/-
# Switchboard.Proofs.Dispatch.Recovering -- what becomes of the failure of a handler

In the recovery from a failure a second function is called while the first error is still at hand.
`dispatch_recovers` says what comes of it, for every way in which a handler can fail (`Failing`):
at most one exception handler is called, with arguments that are about the first failure
(`Supplied`) and about the request, and its own failure goes unseen, for the error response is made
from the first one. The exception is a panic of a return handler of the application on the value of
the exception handler: no guard stands there, and the dispatch panics.
-/

import Mathlib.Data.List.Forall2
import Switchboard.Proofs.Dispatch.Containment
import Switchboard.Proofs.Dispatch.Independence
import Switchboard.Proofs.Dispatch.Watching

namespace Switchboard

variable {σ : Type}

/-! ## The arguments of exception handlers -/

/-- What an exception handler gets for a parameter: the failure, its direct cause and the handler
that failed come from the recovery, all else from the request. -/
def Supplied (rs : List (ArgumentResolver σ)) (i : MethodInfo) (e : Failure)
    (request : RequestMessage) (p : Param) (a : Argument) : Prop :=
  match p.source with
  | .failure => a = .failure e
  | .cause => a = .cause e.cause?
  | .handler => a = .handler i
  | _ => ∃ s s' : σ, ArgumentResolver.bind rs request p s = (.value a, s')

namespace ArgumentResolver

variable {rs : List (ArgumentResolver σ)} {i : MethodInfo} {e : Failure}
  {request : RequestMessage} {p : Param} {a : Argument} {s s' : σ}

/-- What is provided comes before all resolvers, whatever these support. -/
theorem supplied_of_bindWith
    (h : bindWith rs (Dispatcher.provided i e) request p s = (.value a, s')) :
    Supplied rs i e request p a := by
  unfold bindWith at h
  unfold Supplied
  cases hsource : p.source with
  | failure =>
      rw [hsource] at h
      cases h
      rfl
  | cause =>
      rw [hsource] at h
      cases h
      rfl
  | handler =>
      rw [hsource] at h
      cases h
      rfl
  | _ =>
      rw [hsource] at h
      exact ⟨s, s', h⟩

theorem supplied_of_bindAll {ps : List Param} {arguments : List Argument}
    (h : bindAll rs (Dispatcher.provided i e) request ps s = (.value arguments, s')) :
    List.Forall₂ (Supplied rs i e request) ps arguments := by
  induction ps generalizing s arguments with
  | nil =>
      cases h
      exact .nil
  | cons p ps ih =>
      unfold bindAll at h
      split at h
      · next a s₁ hfirst =>
          dsimp only at h
          cases hrest : bindAll rs (Dispatcher.provided i e) request ps s₁ with
          | mk rest s₂ =>
              rw [hrest] at h
              cases rest with
              | value as =>
                  cases h
                  exact .cons (supplied_of_bindWith hfirst) (ih hrest)
              | failed e' => cases h
              | panicked q => cases h
      · cases h
      · cases h

end ArgumentResolver

/-! ## The error response -/

namespace Failure

theorem isA_iff {e : Failure} {k : ErrorKind} : e.isA k = true ↔ k.name ∈ e.kind.lineage := by
  unfold isA ErrorKind.isA
  rw [← Option.ne_none_iff_isSome, ne_eq, ErrorKind.depthTo_eq_none_iff, not_not]

/-- The code that an error response has if the failure does not bring its own. -/
theorem code_toDetails_of_none {e : Failure} (h : e.head.code = none) :
    (ErrorKind.invalidParams.name ∈ e.kind.lineage ∨
      ErrorKind.unsupportedParameter.name ∈ e.kind.lineage → e.toDetails.code.code = -32602) ∧
    (¬(ErrorKind.invalidParams.name ∈ e.kind.lineage ∨
      ErrorKind.unsupportedParameter.name ∈ e.kind.lineage) →
        e.toDetails.code.code = -32603) := by
  have hcode : e.toDetails.code = if e.isA .invalidParams || e.isA .unsupportedParameter then
      .invalidParams else .internalError := by
    unfold toDetails
    rw [h]
    rfl
  rw [hcode, ← isA_iff, ← isA_iff, ← Bool.or_eq_true]
  constructor
  · intro hparams
    rw [if_pos hparams]
    rfl
  · intro hother
    rw [if_neg hother]
    rfl

end Failure

namespace Dispatcher

variable {x : Dispatcher σ} {own : List (ReturnHandler σ)} {registry : Registry σ}
  {resolvers : List (ArgumentResolver σ)} {m : Inbound} {s s₁ : State σ} {h : Method σ}
  {i : MethodInfo} {request : RequestMessage} {e : Failure} {eh : ExceptionHandler σ}

/-- The error response of a failure is made from that failure. -/
structure Reports (request : RequestMessage) (e : Failure) (ms : List Outbound) : Prop where
  /-- It is the only answer. -/
  answers : Answers request.payload (.error e.toDetails) ms
  /-- The message and the data are those of the failure. -/
  message_eq : e.toDetails.message = e.message
  data_eq : e.toDetails.data = e.head.data
  /-- So is the code, if the failure has one. -/
  code_eq : ∀ code, e.head.code = some code → e.toDetails.code = code
  /-- Else the code says whether the parameters are to blame. -/
  code_of_params : e.head.code = none → ErrorKind.invalidParams.name ∈ e.kind.lineage ∨
    ErrorKind.unsupportedParameter.name ∈ e.kind.lineage → e.toDetails.code.code = -32602
  code_of_other : e.head.code = none → ¬(ErrorKind.invalidParams.name ∈ e.kind.lineage ∨
    ErrorKind.unsupportedParameter.name ∈ e.kind.lineage) → e.toDetails.code.code = -32603

theorem reports_errorReply (request : RequestMessage) (e : Failure) (fresh : String) :
    Reports request e (Envelope.errorReply request e.toDetails fresh).toList where
  answers := answers_errorReply e.toDetails fresh
  message_eq := rfl
  data_eq := rfl
  code_eq code hcode := by
    unfold Failure.toDetails
    rw [hcode]
    rfl
  code_of_params hnone := (Failure.code_toDetails_of_none hnone).1
  code_of_other hnone := (Failure.code_toDetails_of_none hnone).2

/-- A dispatch ends with the error response of a failure; nothing else happens after the state
`s`. -/
def EndsReporting (request : RequestMessage) (e : Failure) (s : State σ)
    (result : Except Panic Outcome × State σ) : Prop :=
  ∃ reply : Option Outbound, result = (.ok .defaultError, s.post reply) ∧
    Reports request e reply.toList

theorem endsReporting_fallBack (request : RequestMessage) (e : Failure) (s : State σ) :
    EndsReporting request e s (fallBack request e s) :=
  ⟨_, rfl, reports_errorReply request e _⟩

/-! ## The recovery -/

/-- A value of an exception handler is answered under the type of the exception handler: the first
return handler that supports this type deals with it, and it is sent as a response unless that is
one of the application. -/
def AnswersBy (x : Dispatcher σ) (own : List (ReturnHandler σ)) (i : MethodInfo) (e : Failure)
    (eh : ExceptionHandler σ) (request : RequestMessage) (s t : State σ) : Prop :=
  ∃ v app, eh.function.invoke eh.signature.params x.argumentResolvers (provided i e) request
      s.desk.app = (.ok v, app) ∧
    ReturnHandler.handleBy x.returnHandlers v eh.returnType request { s.desk with app } =
      (.value (), t.desk) ∧
    (ReturnHandler.own? own eh.returnType = none → ∃ ms,
      t.desk.outbox = s.desk.outbox.sendAll ms ∧ Answers request.payload (.success v) ms ∧
      ∀ msg ∈ ms, msg.headers.get? HeaderKey.sendMethod =
        some (.string (eh.returnType.responseMethod.getD request.payload.method)))

theorem answersBy_of_value (hx : x.returnHandlers = [.subscribe] ++ own ++ [.response]) {u : Unit}
    (hvalue : x.attemptRecovery i e eh request s = (.value u, s₁)) :
    x.AnswersBy own i e eh request s s₁ := by
  have hrun : x.run eh.function eh.signature.params eh.returnType (provided i e) request s.desk =
      ((x.attemptRecovery i e eh request s).1, (x.attemptRecovery i e eh request s).2.desk) := rfl
  rw [hvalue] at hrun
  cases hinvoke : eh.function.invoke eh.signature.params x.argumentResolvers (provided i e) request
      s.desk.app with
  | mk result app =>
      cases result with
      | error e' =>
          rw [run_of_error eh.returnType hinvoke] at hrun
          cases hrun
      | ok v =>
          refine ⟨v, app, hinvoke, ?_, fun hown => ?_⟩
          · rw [run_of_invoke_ok hinvoke] at hrun
            cases hhandle : ReturnHandler.handleBy x.returnHandlers v eh.returnType request
                { s.desk with app } with
            | mk a d =>
                rw [hhandle] at hrun
                cases a with
                | value w =>
                    rw [show s₁.desk = d from (congrArg Prod.snd hrun).symm]
                | failed error => cases congrArg Prod.fst hrun
                | panicked q => cases congrArg Prod.fst hrun
          · rw [run_of_library hx hinvoke hown] at hrun
            refine ⟨(Envelope.resultReply request v eh.returnType (generatedId s.desk.made)).toList,
              ?_, answers_resultReply eh.returnType _, ?_⟩
            · rw [show s₁.desk = _ from (congrArg Prod.snd hrun).symm]
              exact congrArg (Outbox.sendAll · _) (ReturnHandler.outbox_bindSession _ _ _)
            · intro msg hmsg
              obtain ⟨id, _, rfl⟩ := Option.map_eq_some_iff.1 (Option.mem_toList.1 hmsg)
              exact (Envelope.headers_stamped _ _ _ _ _).2.2.2.1

/-- What becomes of the failure `e` of the handler `i`, which leaves the state `s`; `result` is how
the dispatch ends. -/
structure Recovered (x : Dispatcher σ) (own : List (ReturnHandler σ)) (i : MethodInfo)
    (request : RequestMessage) (e : Failure) (s : State σ)
    (result : Except Panic Outcome × State σ) : Prop where
  /-- Without an exception handler the failure is reported. -/
  unchosen : ∀ s₁, x.chosen? i e s = (none, s₁) → EndsReporting request e s₁ result
  /-- An exception handler is called with arguments about the failure and about the request. -/
  supplied : ∀ eh s₁ arguments app, x.chosen? i e s = (some eh, s₁) →
    ArgumentResolver.bindAll x.argumentResolvers (provided i e) request eh.signature.params
      s₁.desk.app = (.value arguments, app) →
    List.Forall₂ (Supplied x.argumentResolvers i e request) eh.signature.params arguments
  /-- If the exception handler and the handling of its value succeed, that is the answer. -/
  succeeded : ∀ eh s₁ u s₂, x.chosen? i e s = (some eh, s₁) →
    x.attemptRecovery i e eh request s₁ = (.value u, s₂) →
      result = (.ok .exceptionHandled, s₂) ∧ x.AnswersBy own i e eh request s₁ s₂
  /-- If it fails, in whatever way, the first failure is reported. -/
  failed : ∀ eh s₁ e', x.chosen? i e s = (some eh, s₁) →
    x.Failing eh.function eh.signature.params eh.returnType (provided i e) request s₁.desk e' →
      EndsReporting request e (x.attemptRecovery i e eh request s₁).2 result
  /-- What is left is a panic of a return handler of the application, which nothing holds back. -/
  panicked : ∀ eh s₁ p, x.chosen? i e s = (some eh, s₁) →
    x.PanicsOn own eh.function eh.signature.params eh.returnType (provided i e) request s₁.desk p →
      result.1 = .error p
  /-- There is nothing else. -/
  exhausted : ∀ eh s₁, x.chosen? i e s = (some eh, s₁) →
    (∃ u s₂, x.attemptRecovery i e eh request s₁ = (.value u, s₂)) ∨
    (∃ e', x.Failing eh.function eh.signature.params eh.returnType (provided i e) request s₁.desk
      e') ∨
    ∃ p, x.PanicsOn own eh.function eh.signature.params eh.returnType (provided i e) request
      s₁.desk p

theorem recovered_recover (hx : x.returnHandlers = [.subscribe] ++ own ++ [.response])
    (i : MethodInfo) (request : RequestMessage) (e : Failure) (s : State σ) :
    x.Recovered own i request e s (x.recover i request e s) := by
  have hfailing : ∀ eh (s₁ : State σ) e', x.Failing eh.function eh.signature.params eh.returnType
      (provided i e) request s₁.desk e' ↔ (x.attemptRecovery i e eh request s₁).1 = .failed e' :=
    fun eh s₁ e' => run_failed_iff.symm
  have hpanics : ∀ eh (s₁ : State σ) p, x.PanicsOn own eh.function eh.signature.params eh.returnType
      (provided i e) request s₁.desk p ↔ (x.attemptRecovery i e eh request s₁).1 = .panicked p :=
    fun eh s₁ p => (run_panicked_iff hx).symm
  refine
    { unchosen := ?_, succeeded := ?_, failed := ?_, panicked := ?_, exhausted := ?_
      supplied := fun _ _ _ _ _ hbind => ArgumentResolver.supplied_of_bindAll hbind }
  · intro s₁ hchosen
    rw [recover_of_unchosen hchosen]
    exact endsReporting_fallBack request e s₁
  · intro eh s₁ u s₂ hchosen hvalue
    rw [recover_of_chosen hchosen, hvalue]
    exact ⟨rfl, answersBy_of_value hx hvalue⟩
  · intro eh s₁ e' hchosen hfailed
    have hfst := (hfailing eh s₁ e').1 hfailed
    rw [recover_of_chosen hchosen]
    cases hattempt : x.attemptRecovery i e eh request s₁ with
    | mk result s₂ =>
        rw [hattempt] at hfst
        cases hfst
        exact endsReporting_fallBack request e s₂
  · intro eh s₁ p hchosen hpanicked
    have hfst := (hpanics eh s₁ p).1 hpanicked
    rw [recover_of_chosen hchosen]
    cases hattempt : x.attemptRecovery i e eh request s₁ with
    | mk result s₂ =>
        rw [hattempt] at hfst
        cases hfst
        rfl
  · intro eh s₁ _
    cases hattempt : x.attemptRecovery i e eh request s₁ with
    | mk result s₂ =>
        cases result with
        | value u => exact .inl ⟨u, s₂, rfl⟩
        | failed e' => exact .inr (.inl ⟨e', (hfailing eh s₁ e').2 (by rw [hattempt])⟩)
        | panicked p => exact .inr (.inr ⟨p, (hpanics eh s₁ p).2 (by rw [hattempt])⟩)

/-- Whatever way the handler of a request fails, at most one exception handler is called, and it is
the one chosen for this failure; the rest is as `Recovered` says. -/
theorem dispatch_recovers
    (hreach : (Dispatcher.new registry resolvers own).Reaches m s h request)
    (hfailing : (Dispatcher.new registry resolvers own).Failing h.function h.info.signature.params
      h.info.returnType [] request s.fresh.desk e) :
    let x := Dispatcher.new registry resolvers own
    ∃ s₁, x.attempt h request s.fresh = (.failed e, s₁) ∧
      x.Recovered own h.info request e s₁ (x.dispatch m s) ∧
      ∃ called recovery,
        (∀ log, (watchedWith registry resolvers own).dispatch m (s.noting log) =
          ((x.dispatch m s).1, (x.dispatch m s).2.noting (log ++ called ++ recovery))) ∧
        (called = [] ∨ ∃ destination, Envelope.destination? m = some destination ∧
          called = [.handler destination]) ∧
        (recovery = [] ∨ ∃ eh s₂, x.chosen? h.info e s₁ = (some eh, s₂) ∧
          recovery = [.recovery eh.signature]) := by
  intro x
  have hfst : (x.attempt h request s.fresh).1 = .failed e := run_failed_iff.2 hfailing
  obtain ⟨s₁, hfailed⟩ : ∃ s₁, x.attempt h request s.fresh = (.failed e, s₁) :=
    ⟨_, Prod.ext hfst rfl⟩
  refine ⟨s₁, hfailed, ?_, ?_⟩
  · rw [hreach.dispatch_eq, handle_of_failed hfailed]
    exact recovered_recover rfl h.info request e s₁
  · obtain ⟨destination, hto, hwatched⟩ := dispatch_watchedWith_of_failed hreach hfailed
    refine ⟨_, _, hwatched, ?_, recoveryCall_cases x h.info e request s₁⟩
    unfold noteOf
    split
    · exact .inr ⟨destination, hto, rfl⟩
    · exact .inl rfl

/-- The payment is refused, and the refusal is explained. -/
theorem dispatch_recovers_payment :
    let x := Dispatcher.new till [] []
    let s : State Nat := { desk := { app := 0 } }
    ∃ request, x.Reaches payment s refuse request ∧
      x.Failing refuse.function refuse.info.signature.params refuse.info.returnType [] request
        s.fresh.desk (.new refusal "no") ∧
      ∃ s₁, x.Recovered [] refuse.info request (.new refusal "no") s₁ (x.dispatch payment s) ∧
        (x.dispatch payment s).1 = .ok .exceptionHandled := by
  intro x s
  have hreach : ∃ request, x.Reaches payment s refuse request :=
    ⟨_, "pay", _, rfl, rfl, rfl, rfl⟩
  obtain ⟨request, hreach⟩ := hreach
  have hfailing : x.Failing refuse.function refuse.info.signature.params refuse.info.returnType []
      request s.fresh.desk (.new refusal "no") := .returned rfl rfl rfl
  obtain ⟨s₁, _, hrecovered, _⟩ := dispatch_recovers hreach hfailing
  exact ⟨request, hreach, hfailing, s₁, hrecovered, rfl⟩

/-- The payment is refused, and the explanation makes a return handler panic. The refusal is not
reported; the dispatch panics instead. -/
theorem unreported_blasting :
    let x := Dispatcher.new till [] [blasting]
    let s : State Nat := { desk := { app := 0 } }
    ∃ request s₁ s₂, x.Reaches payment s refuse request ∧
      x.attempt refuse request s.fresh = (.failed (.new refusal "no"), s₁) ∧
      x.chosen? refuse.info (.new refusal "no") s₁ = (some explain, s₂) ∧
      (x.dispatch payment s).1 = .error (.text "return handler exploded") ∧
      (x.dispatch payment s).2.desk.outbox.sent = [] :=
  ⟨_, _, _, ⟨"pay", _, rfl, rfl, rfl, rfl⟩, rfl, rfl, rfl, rfl⟩

end Dispatcher

end Switchboard
