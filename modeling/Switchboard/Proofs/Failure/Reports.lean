/-
# Switchboard.Proofs.Failure.Reports -- what a conversion keeps of an error

Errors from elsewhere become failures before anything is decided by them: which exception handler
is called, and what an error response says. A report about a failure gives back this very failure,
however many messages it was wrapped in; a report without a failure inside, like an error with its
sources, gives a failure that tells all its messages and nothing else (`Failure.Tells`).

A chain of plain errors can be put together in two directions, from the outermost message along the
sources (`ofMessages_cons`) or in a loop from the innermost one outwards (`foldl_reverse_messages`);
both give the same failure. The former is what the proof about all the causes is an induction on
(`tells_ofMessages`). For the dispatch it follows that a function whose failures are wrapped in
messages on the way is the same function (`Function.reporting_eq`).
-/

import Switchboard.Proofs.Dispatch.Recovering

namespace Switchboard

/-- An error with a message and nothing else. -/
def Link.plain (message : String) : Link := ⟨.runtime, message, none, none⟩

namespace Failure

/-! ## The causes of a failure -/

/-- The failure that is reached by going from a failure to its cause, `n` times. -/
def causeAt? (f : Failure) : Nat → Option Failure
  | 0 => some f
  | n + 1 => (f.causeAt? n).bind cause?

/-- A failure consists of plain errors with the given messages, outermost first. -/
def Tells (f : Failure) (messages : List String) : Prop :=
  ∀ n, (f.causeAt? n).map head = messages[n]?.map Link.plain

variable {f : Failure}

@[simp] theorem cause?_runtime (m : String) : (runtime m).cause? = none := rfl

@[simp] theorem cause?_withCause (f cause : Failure) : (f.withCause cause).cause? = some cause :=
  rfl

/-- The causes of a failure are those of its cause, one step later. -/
theorem causeAt?_succ (f : Failure) (n : Nat) :
    f.causeAt? (n + 1) = f.cause?.bind fun cause => cause.causeAt? n := by
  induction n with
  | zero => cases h : f.cause? <;> simp [causeAt?, h]
  | succ n ih =>
      rw [causeAt?, ih, Option.bind_assoc]
      rfl

/-! ## Plain messages -/

@[simp] theorem ofMessages_nil (m : String) : ofMessages m [] = runtime m := rfl

/-- Along the sources: the error is caused by what the sources come to. -/
theorem ofMessages_cons (m source : String) (sources : List String) :
    ofMessages m (source :: sources) = (runtime m).withCause (ofMessages source sources) := rfl

/-- In a loop from the innermost message outwards: each error is caused by what was put together
before. -/
theorem foldl_reverse_messages (m : String) (sources : List String) :
    (m :: sources).reverse.foldl
        (fun cause m => some (cause.elim (runtime m) (runtime m).withCause)) none =
      some (ofMessages m sources) := by
  rw [List.foldl_reverse]
  induction sources generalizing m with
  | nil => rfl
  | cons source sources ih =>
      rw [List.foldr_cons, ih]
      rfl

/-- Every message is told in its place. -/
theorem tells_ofMessages (m : String) (sources : List String) :
    (ofMessages m sources).Tells (m :: sources) := by
  induction sources generalizing m with
  | nil =>
      intro n
      cases n with
      | zero => rfl
      | succ n => rw [causeAt?_succ, ofMessages_nil, cause?_runtime]; rfl
  | cons source sources ih =>
      intro n
      cases n with
      | zero => rfl
      | succ n =>
          rw [causeAt?_succ, ofMessages_cons, cause?_withCause, List.getElem?_cons_succ]
          exact ih source n

end Failure

/-! ## Reports -/

namespace Report

/-- The report about a failure that is wrapped in messages, one after another. -/
def about (e : Failure) (contexts : List String) : Report :=
  contexts.foldl (fun r m => r.wrap (.text m)) { root := .failure e }

/-- No failure is inside, neither as a context nor as the error itself. -/
def Plain (r : Report) : Prop :=
  (∀ e, .failure e ∉ r.contexts) ∧ ∀ e, r.root ≠ .failure e

variable {r : Report}

/-- Messages do not hide the failure that they are wrapped around. -/
theorem failure?_wrap_text (r : Report) (m : String) : (r.wrap (.text m)).failure? = r.failure? :=
  rfl

theorem failure?_about (e : Failure) (contexts : List String) :
    (about e contexts).failure? = some e := by
  have hwraps : ∀ r : Report, (contexts.foldl (fun r m => r.wrap (.text m)) r).failure? =
      r.failure? := by
    induction contexts with
    | nil => exact fun r => rfl
    | cons m contexts ih => exact fun r => (ih _).trans (failure?_wrap_text r m)
  exact hwraps _

theorem failure?_of_plain (h : r.Plain) : r.failure? = none := by
  have hcontexts : r.contexts.findSome? Context.failure? = none := by
    rw [List.findSome?_eq_none_iff]
    intro c hc
    cases c with
    | text m => rfl
    | failure e => exact absurd hc (h.1 e)
  rw [failure?, hcontexts, Option.none_or]
  cases hroot : r.root with
  | messages m ms => rfl
  | failure e => exact absurd hroot (h.2 e)

end Report

namespace Failure

variable {r : Report}

theorem ofReport_about_eq (e : Failure) (contexts : List String) :
    ofReport (.about e contexts) = e := by
  rw [ofReport, Report.failure?_about]

theorem tells_ofReport (h : r.Plain) : (ofReport r).Tells r.messages := by
  rw [ofReport, Report.failure?_of_plain h]
  cases hmessages : r.messages with
  | cons m ms => exact tells_ofMessages m ms
  | nil =>
      -- The error itself always has a message.
      simp [Report.messages] at hmessages

end Failure

/-! ## Functions that report their failures -/

/-- The function that fails with reports: its failures are wrapped in messages, which may depend on
everything, and are made into failures again. -/
def Function.reporting {σ : Type} (f : Function σ) (contexts : f.Args → σ → List String) :
    Function σ :=
  { f with run := fun args s =>
      ((f.run args s).1.mapError fun e => .ofReport (.about e (contexts args s)),
        (f.run args s).2) }

theorem Function.reporting_eq {σ : Type} (f : Function σ) (contexts : f.Args → σ → List String) :
    f.reporting contexts = f := by
  have hrun : ∀ args s, ((f.run args s).1.mapError fun e =>
      Failure.ofReport (.about e (contexts args s)), (f.run args s).2) = f.run args s := by
    intro args s
    simp only [Failure.ofReport_about_eq]
    cases f.run args s with
    | mk result s₁ => cases result <;> rfl
  rw [reporting]
  simp only [hrun]

/-- A failure that the handler of a request returns is what is recovered from. -/
theorem Dispatcher.Reaches.dispatch_of_returned {σ : Type} {x : Dispatcher σ} {m : Inbound}
    {s : State σ} {h : Method σ} {request : RequestMessage} {e : Failure}
    {arguments : List Argument} {args : h.function.Args} {app app' : σ}
    (hreach : x.Reaches m s h request)
    (hbind : ArgumentResolver.bindAll x.argumentResolvers [] request h.info.signature.params
      s.desk.app = (.value arguments, app))
    (hread : h.function.takes.read (h.info.signature.params.zip arguments) = .value args)
    (hrun : h.function.run args app = (.failed e, app')) :
    x.dispatch m s = x.recover h.info request e (s.fresh.withApp app') := by
  have hinvoke : h.function.invoke h.info.signature.params x.argumentResolvers [] request
      s.fresh.desk.app = (.error e, app') := by
    show Function.invoke _ _ _ _ _ s.desk.app = _
    rw [Function.invoke, hbind]
    dsimp only
    rw [Function.call_of_value hread, hrun]
    rfl
  have hattempt : x.attempt h request s.fresh = (.failed e, s.fresh.withApp app') := by
    rw [attempt, State.onDesk, run_of_error _ hinvoke]
    rfl
  rw [hreach.dispatch_eq, handle_of_failed hattempt]

/-! ## What the conversions keep -/

/-- What becomes of errors from elsewhere; `σ` is the state of an application that has such
errors. -/
structure Conversions (σ : Type) : Prop where
  /-- A failure that was wrapped in messages comes out as it was. -/
  wrapped : ∀ (e : Failure) contexts, Failure.ofReport (.about e contexts) = e
  /-- Any other report gives plain errors with its messages in order. -/
  plain : ∀ r : Report, r.Plain → (Failure.ofReport r).Tells r.messages
  /-- So does an error with its sources. -/
  sources : ∀ m sources, (Failure.ofMessages m sources).Tells (m :: sources)
  /-- To put this together from the innermost message outwards gives the same. -/
  outwards : ∀ m sources, (m :: sources).reverse.foldl
      (fun cause m => some (cause.elim (Failure.runtime m) (Failure.runtime m).withCause)) none =
    some (Failure.ofMessages m sources)
  /-- An error of the machinery differs from this by the kind of the outermost error only. -/
  head_machinery : ∀ b : BusError, (Failure.ofBusError b).head =
    { Link.plain b.message with kind := Failure.kindOf b }
  causes_machinery : ∀ (b : BusError) n, (Failure.ofBusError b).causeAt? (n + 1) =
    (Failure.ofMessages b.message b.reason?.toList).causeAt? (n + 1)
  /-- To wrap the failures of a function is to leave the function as it is. -/
  reporting : ∀ (f : Function σ) contexts, f.reporting contexts = f
  /-- If a handler returns a failure in such a wrapping, the recovery is the one from the failure
  itself: it decides which exception handler is called and what an error response says. -/
  recovered : ∀ (registry : Registry σ) resolvers own m (s : Dispatcher.State σ) h request e
    contexts arguments app args app',
    let x := Dispatcher.new registry resolvers own
    x.Reaches m s h request →
    ArgumentResolver.bindAll x.argumentResolvers [] request h.info.signature.params s.desk.app =
      (.value arguments, app) →
    h.function.takes.read (h.info.signature.params.zip arguments) = .value args →
    h.function.run args app = (.failed (.ofReport (.about e contexts)), app') →
      x.dispatch m s = x.recover h.info request e (s.fresh.withApp app') ∧
      x.Recovered own h.info request e (s.fresh.withApp app') (x.dispatch m s)

theorem conversions (σ : Type) : Conversions σ where
  wrapped := Failure.ofReport_about_eq
  plain _ hplain := Failure.tells_ofReport hplain
  sources := Failure.tells_ofMessages
  outwards := Failure.foldl_reverse_messages
  head_machinery _ := rfl
  causes_machinery b n := by
    rw [Failure.causeAt?_succ, Failure.causeAt?_succ]
    rfl
  reporting := Function.reporting_eq
  recovered := by
    intro registry resolvers own m s h request e contexts arguments app args app' x hreach hbind
      hread hrun
    rw [Failure.ofReport_about_eq] at hrun
    have hdispatch := hreach.dispatch_of_returned hbind hread hrun
    refine ⟨hdispatch, ?_⟩
    rw [hdispatch]
    exact Dispatcher.recovered_recover rfl h.info request e _

/-- The failure of a payment, wrapped twice, and a plain error that was wrapped twice. -/
example : Failure.ofReport (.about (.new .invalidArgument "no") ["pay", "serve"]) =
      .new .invalidArgument "no" ∧
    (Failure.ofReport ⟨[.text "serve", .text "pay"], .messages "write" ["disk full"]⟩).chain =
      ["serve", "pay", "write", "disk full"].map Link.plain := by
  decide

end Switchboard
