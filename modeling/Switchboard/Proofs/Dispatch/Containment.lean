/-
# Switchboard.Proofs.Dispatch.Containment -- which panics escape a dispatch

Handlers, exception handlers, extractors and argument resolvers all run under the guard of
`Function.invoke`. Return handlers do not: they are called once for the value of the handler and,
after a failure, once for that of the exception handler, and a panic there leaves the dispatch.
`Leaks` names these two places, and `dispatch_contained` says that there is no third: a dispatch
panics just when one of them does, so it ends in an outcome whenever the application's return
handlers do not panic.

It also says what such an outcome comes with: a request whose handler fails, with no exception
handler to mend that, is answered by exactly one error response.
-/

import Switchboard.Proofs.Dispatch.Course

namespace Switchboard

namespace Dispatcher

variable {σ : Type} {x : Dispatcher σ} {own : List (ReturnHandler σ)} {request : RequestMessage}
  {s s₁ : State σ} {h : Method σ} {i : MethodInfo} {e : Failure} {m : Inbound} {p : Panic}

/-! ## Panics -/

/-- A panic leaves the handling of a request. -/
inductive Leaks (x : Dispatcher σ) (own : List (ReturnHandler σ)) (h : Method σ)
    (request : RequestMessage) (s : State σ) (p : Panic) : Prop
  /-- A return handler of the application panics on the value of the handler. -/
  | value (hpanics : x.PanicsOn own h.function h.info.signature.params h.info.returnType [] request
      s.desk p)
  /-- The handler fails, and a return handler of the application panics on the value of the
  exception handler. -/
  | recovery {e : Failure} {eh : ExceptionHandler σ} {s₁ s₂ : State σ}
      (hfailed : x.attempt h request s = (.failed e, s₁))
      (hchosen : x.chosen? h.info e s₁ = (some eh, s₂))
      (hpanics : x.PanicsOn own eh.function eh.signature.params eh.returnType (provided h.info e)
        request s₂.desk p)

/-- A panic leaves the dispatch of a message, which is a request for a registered handler. -/
def Escapes (x : Dispatcher σ) (own : List (ReturnHandler σ)) (m : Inbound) (s : State σ)
    (p : Panic) : Prop :=
  ∃ h request, x.Reaches m s h request ∧ x.Leaks own h request s.fresh p

/-- No panic escapes from return handlers that do not panic. -/
theorem not_escapes (hcalm : ∀ k ∈ own, k.Calm) : ¬x.Escapes own m s p := by
  have hnever : ∀ {f : Function σ} {params type provided} {d : Desk σ} {request},
      ¬x.PanicsOn own f params type provided request d p := by
    rintro f params type provided d request ⟨v, app, k, _, hown, hpanic⟩
    exact hcalm k (ReturnHandler.mem_of_own? hown) v type request _ p hpanic
  rintro ⟨h, request, _, hpanics | ⟨_, _, hpanics⟩⟩
  · exact hnever hpanics
  · exact hnever hpanics

section Own

variable (hx : x.returnHandlers = [.subscribe] ++ own ++ [.response])

include hx

/-- Recovering panics only in dealing with the value of the exception handler. -/
theorem recover_error_iff :
    (x.recover i request e s).1 = .error p ↔ ∃ eh s₁, x.chosen? i e s = (some eh, s₁) ∧
      x.PanicsOn own eh.function eh.signature.params eh.returnType (provided i e) request s₁.desk
        p := by
  cases hchosen : x.chosen? i e s with
  | mk choice s₁ =>
      cases choice with
      | none =>
          rw [recover_of_unchosen hchosen]
          constructor
          · intro herror
            cases herror
          · rintro ⟨eh, s₂, heq, _⟩
            cases heq
      | some eh =>
          have hpanicked : (x.attemptRecovery i e eh request s₁).1 = .panicked p ↔
              x.PanicsOn own eh.function eh.signature.params eh.returnType (provided i e) request
                s₁.desk p := run_panicked_iff hx
          rw [recover_of_chosen hchosen]
          constructor
          · intro herror
            refine ⟨eh, s₁, rfl, hpanicked.1 ?_⟩
            split at herror
            · cases herror
            · cases herror
            · next q s₂ hattempt =>
                cases herror
                rw [hattempt]
          · rintro ⟨eh', s₁', heq, hpanics⟩
            cases heq
            have hfst := hpanicked.2 hpanics
            split
            · next u s₂ hattempt => rw [hattempt] at hfst; cases hfst
            · next e' s₂ hattempt => rw [hattempt] at hfst; cases hfst
            · next q s₂ hattempt => rw [hattempt] at hfst; cases hfst; rfl

/-- Handling a request panics in the two places and nowhere else. -/
theorem handle_error_iff :
    (x.handle h request s).1 = .error p ↔ x.Leaks own h request s p := by
  have hpanicked : (x.attempt h request s).1 = .panicked p ↔
      x.PanicsOn own h.function h.info.signature.params h.info.returnType [] request s.desk p :=
    run_panicked_iff hx
  cases hattempt : x.attempt h request s with
  | mk result s₁ =>
      rw [hattempt] at hpanicked
      cases result with
      | value u =>
          rw [handle_of_value hattempt]
          constructor
          · intro herror
            cases herror
          · rintro (hpanics | ⟨hfailed, _, _⟩)
            · cases hpanicked.2 hpanics
            · rw [hattempt] at hfailed; cases hfailed
      | panicked q =>
          rw [handle_of_panicked hattempt]
          constructor
          · intro herror
            cases herror
            exact .value (hpanicked.1 rfl)
          · rintro (hpanics | ⟨hfailed, _, _⟩)
            · cases hpanicked.2 hpanics
              rfl
            · rw [hattempt] at hfailed; cases hfailed
      | failed e =>
          rw [handle_of_failed hattempt, recover_error_iff hx]
          constructor
          · rintro ⟨eh, s₂, hchosen, hpanics⟩
            exact .recovery hattempt hchosen hpanics
          · rintro (hpanics | ⟨hfailed, hchosen, hpanics⟩)
            · cases hpanicked.2 hpanics
            · rw [hattempt] at hfailed
              cases hfailed
              exact ⟨_, _, hchosen, hpanics⟩

/-- A dispatch panics just when a panic leaves the handling of its request. -/
theorem dispatch_error_iff : (x.dispatch m s).1 = .error p ↔ x.Escapes own m s p := by
  by_cases hreach : ∃ h request, x.Reaches m s h request
  · obtain ⟨h, request, hreach⟩ := hreach
    rw [hreach.dispatch_eq, handle_error_iff hx]
    constructor
    · intro hleaks
      exact ⟨h, request, hreach, hleaks⟩
    · rintro ⟨h', request', hreach', hleaks⟩
      obtain ⟨rfl, rfl⟩ := hreach.unique hreach'
      exact hleaks
  · have hnone : ∀ h request, ¬x.Reaches m s h request :=
      fun h request hr => hreach ⟨h, request, hr⟩
    constructor
    · intro herror
      rcases dispatch_of_unreached hnone with ⟨outcome, _, heq | ⟨reply, heq⟩⟩ <;>
        rw [heq] at herror <;> cases herror
    · rintro ⟨h, request, hr, _⟩
      exact absurd hr (hnone h request)

end Own

/-! ## Failures that nobody mends -/

/-- The exception handler that is chosen for a failure gives a value, which is dealt with. -/
def Mends (x : Dispatcher σ) (i : MethodInfo) (e : Failure) (request : RequestMessage)
    (s : State σ) : Prop :=
  ∃ eh s₁ u s₂, x.chosen? i e s = (some eh, s₁) ∧
    x.attemptRecovery i e eh request s₁ = (.value u, s₂)

/-- If nobody mends a failure, the failure is the answer, also after another one. -/
theorem recover_of_not_mends (hx : x.returnHandlers = [.subscribe] ++ own ++ [.response])
    (hsilent : ∀ k ∈ own, k.Silent) (hnone : ¬x.Mends i e request s)
    (hcontained : ∀ p, (x.recover i request e s).1 ≠ .error p) :
    ∃ t, x.recover i request e s = fallBack request e t ∧ t.desk.outbox = s.desk.outbox := by
  cases hchosen : x.chosen? i e s with
  | mk choice s₁ =>
      have hdesk : s₁.desk = s.desk := by
        rw [← desk_chosen? x i e s, hchosen]
      cases choice with
      | none => exact ⟨s₁, recover_of_unchosen hchosen request, by rw [hdesk]⟩
      | some eh =>
          have hrecover := recover_of_chosen hchosen request
          cases hattempt : x.attemptRecovery i e eh request s₁ with
          | mk result s₂ =>
              rw [hattempt] at hrecover
              cases result with
              | value u => exact absurd ⟨eh, s₁, u, s₂, hchosen, hattempt⟩ hnone
              | panicked p => exact absurd (congrArg Prod.fst hrecover) (hcontained p)
              | failed e' =>
                  have hquiet : s₂.desk.outbox = s₁.desk.outbox :=
                    outbox_of_run_failed hx hsilent hattempt
                  exact ⟨s₂, hrecover, by rw [hquiet, hdesk]⟩

/-! ## What is contained -/

/-- What holds of a dispatch by a dispatcher with the given return handlers of the application. -/
structure Contained (x : Dispatcher σ) (own : List (ReturnHandler σ)) (m : Inbound)
    (s : State σ) : Prop where
  /-- It panics just when a return handler of the application panics, on the value of the handler
  or on that of the exception handler. -/
  error_iff : ∀ p, (x.dispatch m s).1 = .error p ↔ x.Escapes own m s p
  /-- It ends in an outcome if the return handlers of the application do not panic. -/
  ends : (∀ k ∈ own, k.Calm) → ∃ outcome, (x.dispatch m s).1 = .ok outcome
  /-- If a handler fails, or its value is not dealt with, and no exception handler mends that, then
  the failure is sent as the one response to a request with an id; this takes that the return
  handlers of the application send nothing, and that no panic escapes. -/
  answered : (∀ k ∈ own, k.Silent) → ∀ h request e s₁, x.Reaches m s h request →
    x.attempt h request s.fresh = (.failed e, s₁) → ¬x.Mends h.info e request s₁ →
    (∀ p, ¬x.Escapes own m s p) →
      (x.dispatch m s).1 = .ok .defaultError ∧ ∃ ms,
        (x.dispatch m s).2.desk.outbox = s.desk.outbox.sendAll ms ∧
        Answers request.payload (.error e.toDetails) ms

/-- Only the panics of return handlers escape a dispatch. -/
theorem dispatch_contained (registry : Registry σ) (resolvers : List (ArgumentResolver σ))
    (own : List (ReturnHandler σ)) (m : Inbound) (s : State σ) :
    Contained (.new registry resolvers own) own m s := by
  obtain ⟨x, hnew⟩ : ∃ x, x = Dispatcher.new registry resolvers own := ⟨_, rfl⟩
  have hx : x.returnHandlers = [.subscribe] ++ own ++ [.response] := by rw [hnew]; rfl
  rw [← hnew]
  refine ⟨fun p => dispatch_error_iff hx, ?_, ?_⟩
  · intro hcalm
    cases hended : (x.dispatch m s).1 with
    | ok outcome => exact ⟨outcome, rfl⟩
    | error p => exact absurd ((dispatch_error_iff hx).1 hended) (not_escapes hcalm)
  · intro hsilent h request e s₁ hreach hfailed hnone hcontained
    have hdispatch : x.dispatch m s = x.recover h.info request e s₁ := by
      rw [hreach.dispatch_eq, handle_of_failed hfailed]
    have hquiet : s₁.desk.outbox = s.fresh.desk.outbox := outbox_of_run_failed hx hsilent hfailed
    obtain ⟨t, ht, houtbox⟩ := recover_of_not_mends hx hsilent hnone fun p herror =>
      hcontained p ((dispatch_error_iff hx).1 (by rw [hdispatch]; exact herror))
    rw [hdispatch, ht]
    refine ⟨rfl, _, ?_, answers_errorReply e.toDetails (generatedId t.desk.made)⟩
    show t.desk.outbox.sendAll _ = _
    rw [houtbox, hquiet]
    rfl

/-- A return handler that panics on every value. -/
def blasting : ReturnHandler σ where
  supports _ := true
  handle _ _ _ d := (.panicked (.text "return handler exploded"), d)

/-- A handler that gives what it is asked with. -/
def echoing : Method Unit :=
  .request "echo"
    { id := "echo", name := "echo", takes := .cons (.json "Value") .none, returns := "Value"
      run := fun (v, ()) s => (.value (.ok v), s) }

/-- A registry with this handler. -/
def hollow : Registry Unit where
  handlers := Dict.empty.insert "echo" echoing

/-- A request for it. -/
def shout : Inbound :=
  ⟨.object [("id", .integer 4), ("method", .string "echo"), ("params", .integer 1)], .empty⟩

/-- The handler gives a value, the return handler panics, and so does the dispatch; the request is
not answered. -/
theorem escapes_blasting :
    ((new hollow [] [blasting]).dispatch shout { desk := { app := () } }).1 =
        .error (.text "return handler exploded") ∧
      (∀ outcome, ((new hollow [] [blasting]).dispatch shout { desk := { app := () } }).1 ≠
        .ok outcome) ∧
      ((new hollow [] [blasting]).dispatch shout { desk := { app := () } }).2.desk.outbox.sent =
        [] := by
  have hended : ((new hollow [] [blasting]).dispatch shout { desk := { app := () } }).1 =
      .error (.text "return handler exploded") := rfl
  refine ⟨hended, fun outcome hok => ?_, rfl⟩
  rw [hended] at hok
  cases hok

end Dispatcher

end Switchboard
