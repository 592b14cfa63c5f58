/-
# Switchboard.Proofs.Dispatch.Watching -- watching a dispatcher with return handlers of its own

`Recording` watches a dispatcher without return handlers of the application. Here they are kept,
beside the notes, which they do not touch (`ReturnHandler.beside`). Again watching changes nothing:
a call, a recovery and the handling of a request go as they would unwatched, and the notes grow by
what is called. A recovery calls the exception handler that is chosen, or none (`recoveryCall`).
-/

import Switchboard.Proofs.Dispatch.Course

namespace Switchboard

variable {σ : Type}

/-! ## Return handlers beside the notes -/

namespace Desk

/-- The desk with notes beside the state of the application. -/
def noting (d : Desk σ) (log : List Invocation) : Desk (σ × List Invocation) where
  app := (d.app, log)
  subscriptions := d.subscriptions
  outbox := d.outbox
  made := d.made

/-- The desk without the notes. -/
def unnoted (d : Desk (σ × List Invocation)) : Desk σ where
  app := d.app.1
  subscriptions := d.subscriptions
  outbox := d.outbox
  made := d.made

end Desk

namespace ReturnHandler

/-- The return handler, which does not touch the notes. -/
def beside (k : ReturnHandler σ) : ReturnHandler (σ × List Invocation) where
  supports := k.supports
  handle value type request d :=
    ((k.handle value type request d.unnoted).1,
      (k.handle value type request d.unnoted).2.noting d.app.2)

theorem own?_beside (own : List (ReturnHandler σ)) (type : ReturnType) :
    own? (own.map beside) type = (own? own type).map beside := by
  unfold own?
  split
  · rfl
  · rw [List.find?_map]
    rfl

theorem bindSession_noting (type : ReturnType) (request : RequestMessage) (d : Desk σ)
    (log : List Invocation) :
    bindSession type request (d.noting log) = (bindSession type request d).noting log := by
  unfold bindSession
  split <;> rfl

end ReturnHandler

namespace Dispatcher

variable {registry : Registry σ} {resolvers : List (ArgumentResolver σ)}
  {own : List (ReturnHandler σ)} {request : RequestMessage} {s : State σ} {h : Method σ}
  {i : MethodInfo} {e : Failure} {m : Inbound}

/-- The dispatcher whose functions note their calls, with return handlers of the application. -/
def watchedWith (registry : Registry σ) (resolvers : List (ArgumentResolver σ))
    (own : List (ReturnHandler σ)) : Dispatcher (σ × List Invocation) :=
  .new registry.noting (resolvers.map .beside) (own.map .beside)

/-- What a call of a function notes. -/
def noteOf (x : Dispatcher σ) (f : Function σ) (call : Invocation) (params : List Param)
    (provided : List Argument) (request : RequestMessage) (app : σ) : List Invocation :=
  if f.reached params x.argumentResolvers provided request app then [call] else []

/-- The call of an exception handler after the failure of a handler. -/
def recoveryCall (x : Dispatcher σ) (i : MethodInfo) (e : Failure) (request : RequestMessage)
    (s : State σ) : List Invocation :=
  match x.chosen? i e s with
  | (none, _) => []
  | (some eh, s) =>
    x.noteOf eh.function (.recovery eh.signature) eh.signature.params (provided i e) request
      s.desk.app

/-- It is at most one, and that of the exception handler that is chosen. -/
theorem recoveryCall_cases (x : Dispatcher σ) (i : MethodInfo) (e : Failure)
    (request : RequestMessage) (s : State σ) :
    x.recoveryCall i e request s = [] ∨ ∃ eh s₁, x.chosen? i e s = (some eh, s₁) ∧
      x.recoveryCall i e request s = [.recovery eh.signature] := by
  unfold recoveryCall
  split
  · exact .inl rfl
  · next eh s₁ hchosen =>
      unfold noteOf
      split
      · exact .inr ⟨eh, s₁, hchosen, rfl⟩
      · exact .inl rfl

/-! ## Calling, recovering and handling under watch -/

section Plain

variable (registry resolvers own)

/-- A call under watch. -/
theorem run_watchedWith (f : Function σ) (call : Invocation) (params : List Param)
    (type : ReturnType) (provided : List Argument) (request : RequestMessage) (d : Desk σ)
    (log : List Invocation) :
    let x := Dispatcher.new registry resolvers own
    (watchedWith registry resolvers own).run (f.noting call) params type provided request
        (d.noting log) =
      ((x.run f params type provided request d).1,
        (x.run f params type provided request d).2.noting
          (log ++ x.noteOf f call params provided request d.app)) := by
  intro x
  have hwatched : (watchedWith registry resolvers own).returnHandlers =
      [.subscribe] ++ own.map .beside ++ [.response] := rfl
  have hinvoke := f.invoke_noting call params x.argumentResolvers provided request d.app log
  have hnote : (if f.reached params x.argumentResolvers provided request d.app then [call]
      else []) = x.noteOf f call params provided request d.app := rfl
  rw [hnote] at hinvoke
  cases hplain : f.invoke params x.argumentResolvers provided request d.app with
  | mk result app =>
      rw [hplain] at hinvoke
      cases result with
      | error e =>
          rw [run_of_error type hplain, run_of_error (x := watchedWith registry resolvers own)
            (d := d.noting log) type hinvoke]
          rfl
      | ok v =>
          -- The value goes to the same return handler in both dispatchers, or to none in both.
          have hown := ReturnHandler.own?_beside own type
          cases hk : ReturnHandler.own? own type with
          | some k =>
              rw [hk] at hown
              rw [run_of_own (x := x) rfl hplain hk,
                run_of_own (d := d.noting log) hwatched hinvoke hown]
              rfl
          | none =>
              rw [hk] at hown
              rw [run_of_library (x := x) rfl hplain hk,
                run_of_library (d := d.noting log) hwatched hinvoke hown]
              exact congrArg (fun d' : Desk (σ × List Invocation) => (Attempt.value (), d'.post _))
                (ReturnHandler.bindSession_noting type request { d with app } _)

theorem attempt_watchedWith (h : Method σ) (call : Invocation) (request : RequestMessage)
    (s : State σ) (log : List Invocation) :
    let x := Dispatcher.new registry resolvers own
    (watchedWith registry resolvers own).attempt (h.noting call) request (s.noting log) =
      ((x.attempt h request s).1, (x.attempt h request s).2.noting
        (log ++ x.noteOf h.function call h.info.signature.params [] request s.desk.app)) := by
  intro x
  have hrun := run_watchedWith registry resolvers own h.function call h.info.signature.params
    h.info.returnType [] request s.desk log
  unfold attempt State.onDesk
  rw [show (s.noting log).desk = s.desk.noting log from rfl,
    show (h.noting call).function = h.function.noting call from rfl,
    show (h.noting call).info = h.info from rfl, hrun]
  rfl

theorem attemptRecovery_watchedWith (i : MethodInfo) (e : Failure) (eh : ExceptionHandler σ)
    (request : RequestMessage) (s : State σ) (log : List Invocation) :
    let x := Dispatcher.new registry resolvers own
    (watchedWith registry resolvers own).attemptRecovery i e eh.noting request (s.noting log) =
      ((x.attemptRecovery i e eh request s).1, (x.attemptRecovery i e eh request s).2.noting
        (log ++ x.noteOf eh.function (.recovery eh.signature) eh.signature.params (provided i e)
          request s.desk.app)) := by
  intro x
  have hrun := run_watchedWith registry resolvers own eh.function (.recovery eh.signature)
    eh.signature.params eh.returnType (provided i e) request s.desk log
  unfold attemptRecovery State.onDesk
  rw [show (s.noting log).desk = s.desk.noting log from rfl,
    show eh.noting.function = eh.function.noting (.recovery eh.signature) from rfl,
    show eh.noting.signature = eh.signature from rfl,
    show eh.noting.returnType = eh.returnType from rfl, hrun]
  rfl

/-- The choice of an exception handler depends on the registry and on what is remembered. -/
theorem chosen?_watchedWith (i : MethodInfo) (e : Failure) (s : State σ) (log : List Invocation) :
    let x := Dispatcher.new registry resolvers own
    (watchedWith registry resolvers own).chosen? i e (s.noting log) =
      ((x.chosen? i e s).1.map .noting, (x.chosen? i e s).2.noting log) := by
  intro x
  unfold chosen?
  split
  · rfl
  · next owner _ =>
      exact @exceptionHandler?_noting σ registry resolvers s owner e log

/-- A recovery under watch. -/
theorem recover_watchedWith (i : MethodInfo) (request : RequestMessage) (e : Failure)
    (s : State σ) (log : List Invocation) :
    let x := Dispatcher.new registry resolvers own
    (watchedWith registry resolvers own).recover i request e (s.noting log) =
      ((x.recover i request e s).1, (x.recover i request e s).2.noting
        (log ++ x.recoveryCall i e request s)) := by
  intro x
  have hchosen : (watchedWith registry resolvers own).chosen? i e (s.noting log) =
      ((x.chosen? i e s).1.map .noting, (x.chosen? i e s).2.noting log) :=
    chosen?_watchedWith registry resolvers own i e s log
  unfold recoveryCall
  cases hplain : x.chosen? i e s with
  | mk choice s₁ =>
      rw [hplain] at hchosen
      cases choice with
      | none =>
          rw [recover_of_unchosen hplain, recover_of_unchosen hchosen, List.append_nil]
          rfl
      | some eh =>
          rw [recover_of_chosen hplain, recover_of_chosen hchosen, attemptRecovery_watchedWith]
          cases x.attemptRecovery i e eh request s₁ with
          | mk result s₂ => cases result <;> rfl

end Plain

/-- A handler under watch that fails. -/
theorem handle_watchedWith_of_failed {s₁ : State σ}
    (hfailed : (Dispatcher.new registry resolvers own).attempt h request s = (.failed e, s₁))
    (call : Invocation) (log : List Invocation) :
    let x := Dispatcher.new registry resolvers own
    (watchedWith registry resolvers own).handle (h.noting call) request (s.noting log) =
      ((x.handle h request s).1, (x.handle h request s).2.noting
        (log ++ x.noteOf h.function call h.info.signature.params [] request s.desk.app ++
          x.recoveryCall h.info e request s₁)) := by
  intro x
  have hwatched := attempt_watchedWith registry resolvers own h call request s log
  dsimp only at hwatched
  rw [hfailed] at hwatched
  rw [handle_of_failed (x := x) hfailed, handle_of_failed hwatched]
  exact recover_watchedWith registry resolvers own h.info request e s₁ _

/-- The dispatch of a message to a handler that fails, under watch. -/
theorem dispatch_watchedWith_of_failed {s₁ : State σ}
    (hreach : (Dispatcher.new registry resolvers own).Reaches m s h request)
    (hfailed : (Dispatcher.new registry resolvers own).attempt h request s.fresh =
      (.failed e, s₁)) :
    let x := Dispatcher.new registry resolvers own
    ∃ destination, Envelope.destination? m = some destination ∧ ∀ log,
      (watchedWith registry resolvers own).dispatch m (s.noting log) =
        ((x.dispatch m s).1, (x.dispatch m s).2.noting
          (log ++ x.noteOf h.function (.handler destination) h.info.signature.params [] request
            s.desk.app ++ x.recoveryCall h.info e request s₁)) := by
  intro x
  obtain ⟨destination, r, hto, hr, hget, rfl⟩ := hreach
  refine ⟨destination, hto, fun log => ?_⟩
  have hwatched : (watchedWith registry resolvers own).Reaches m (s.noting log)
      (h.noting (.handler destination))
      (Envelope.requestFor m r (some h.info) (generatedId s.desk.made)) := by
    refine ⟨destination, r, hto, hr, ?_, rfl⟩
    have hnoted := Registry.get?_noting registry destination
    rw [show registry.get? destination = some h from hget] at hnoted
    exact hnoted
  have hplain : x.dispatch m s = x.handle h _ s.fresh := dispatch_of_registered hto hr hget
  rw [hwatched.dispatch_eq, hplain]
  exact handle_watchedWith_of_failed hfailed (.handler destination) log

end Dispatcher

end Switchboard
