/-
# Switchboard.Proofs.Dispatch.Independence -- no message changes the answer to a later one

A dispatcher remembers resolvers of exception handlers, and these remember what they found. If the
functions of the application depend on their arguments alone, nothing else could carry over from
one message to the next, and these memories do not: every dispatch keeps them right
(`State.Faithful`), and while they are right the exception handler for a failure is the one that
the rule selects (`exceptionHandler?_spec`). So the answer to a request is the same in any two
states (`answer_congr`), which `alike_after` says of whole dispatches after any two histories.

What two runs do not share is the ids that are generated along the way. They end up in replies,
and a handler that asks for all headers sees the one of its request. The theorem therefore
compares dispatches that draw the same ids, and, if nobody looks at them, any two dispatches up to
these ids.
-/

import Switchboard.Proofs.Dispatch.Course
import Switchboard.Proofs.Dispatch.Masking

namespace Switchboard

variable {σ : Type}

/-! ## What a registry may call and raise -/

namespace Registry

/-- The functions that answer a destination or deal with failures. -/
def Calls (r : Registry σ) (f : Function σ) : Prop :=
  (∃ destination h, r.get? destination = some h ∧ h.function = f) ∨
  ∃ owner, ∃ eh ∈ r.exceptionHandlersOf owner, eh.function = f

/-- The kinds of failures that may have to be dealt with: those of the library, and those that
handlers fail with. -/
def Raises (r : Registry σ) (k : ErrorKind) : Prop :=
  k ∈ ErrorKind.builtin ∨
  ∃ destination h e, r.get? destination = some h ∧ h.function.Fails e ∧ k ∈ e.kinds

/-- The exception handlers of an owner as candidates. -/
def candidates (r : Registry σ) (owner : String) : List (List ErrorKind × ExceptionHandler σ) :=
  (r.exceptionHandlersOf owner).map fun h => (h.kinds, h)

/-- The exception handler of an owner for a failure by the rule alone. -/
def exceptionHandlerFor? (r : Registry σ) (owner : String) (e : Failure) :
    Option (ExceptionHandler σ) :=
  (Resolver.ofCandidates (r.candidates owner)).resolveAfresh e

/-- The exception handler for a failure is one of the owner's. -/
theorem mem_of_exceptionHandlerFor? {r : Registry σ} {owner : String} {e : Failure}
    {eh : ExceptionHandler σ} (h : r.exceptionHandlerFor? owner e = some eh) :
    eh ∈ r.exceptionHandlersOf owner := by
  obtain ⟨n, _, hn⟩ := Option.bind_eq_some_iff.1 h
  obtain ⟨c, hc, rfl⟩ := Option.map_eq_some_iff.1 hn
  obtain ⟨eh, hmem, rfl⟩ := List.mem_map.1 (List.mem_of_getElem? hc)
  exact hmem

end Registry

namespace Dispatcher

/-! ## Memories that are right -/

/-- All that is remembered about exception handlers is right. -/
def State.Faithful (registry : Registry σ) (s : State σ) : Prop :=
  ResolverCache.Faithful registry.Raises registry.candidates s.recovery

/-- The answer to a request if every choice is made by the rule alone; `app` and `next` are the
states in which the handler and the exception handler are called. -/
def answerAfresh (x : Dispatcher σ) (h : Method σ) (request : RequestMessage) (app next : σ) :
    Answer σ :=
  match (h.function.invoke h.info.signature.params x.argumentResolvers [] request app).1 with
  | .ok v => .value v
  | .error e =>
    match h.info.owner.bind fun owner => x.registry.exceptionHandlerFor? owner e with
    | none => .failure e
    | some eh =>
      match (eh.function.invoke eh.signature.params x.argumentResolvers (provided h.info e) request
        next).1 with
      | .ok v => .recovered eh v
      | .error _ => .failure e

section Memory

variable {x : Dispatcher σ} {s : State σ} (hK : ErrorKind.CoherentOn x.registry.Raises)
  (hs : s.Faithful x.registry)

include hK hs

/-- The exception handler for a failure is that of the rule. -/
theorem exceptionHandler?_spec (owner : String) {e : Failure}
    (he : ∀ k ∈ e.kinds, x.registry.Raises k) :
    (x.exceptionHandler? owner e s).1 = x.registry.exceptionHandlerFor? owner e ∧
      (x.exceptionHandler? owner e s).2.Faithful x.registry :=
  ResolverCache.resolve_spec hK hs he owner

/-- An answer is that of the rule; finding it touches nothing on the desk but the state of the
application. -/
theorem answer_spec {destination : String} {h : Method σ}
    (hget : x.registry.get? destination = some h) (request : RequestMessage) :
    (∃ next, (x.answer h request s).1 = x.answerAfresh h request s.desk.app next) ∧
      ∃ app, (x.answer h request s).2.desk = { s.desk with app } := by
  unfold answer answerAfresh
  cases hinvoke : h.function.invoke h.info.signature.params x.argumentResolvers [] request
      s.desk.app with
  | mk result app =>
      cases result with
      | ok v => exact ⟨⟨app, rfl⟩, app, rfl⟩
      | error e =>
          dsimp only
          cases h.info.owner with
          | none => exact ⟨⟨app, rfl⟩, app, rfl⟩
          | some owner =>
              have hraised : ∀ k ∈ e.kinds, x.registry.Raises k := by
                intro k hk
                rcases Function.kinds_of_invoke (congrArg Prod.fst hinvoke) with hfails | hown
                · exact .inr ⟨destination, h, e, hget, hfails, hk⟩
                · exact .inl (hown k hk)
              have hwith : (s.withApp app).Faithful x.registry := hs
              have hrule := (exceptionHandler?_spec hK hwith owner hraised).1
              have hdesk : (x.exceptionHandler? owner e (s.withApp app)).2.desk =
                  { s.desk with app } := rfl
              dsimp only [Option.bind_some]
              rw [← hrule]
              cases hchoice : x.exceptionHandler? owner e (s.withApp app) with
              | mk choice s₁ =>
                  rw [hchoice] at hdesk
                  dsimp only at hdesk ⊢
                  have happ : s₁.desk.app = app := congrArg Desk.app hdesk
                  cases choice with
                  | none => exact ⟨⟨app, rfl⟩, app, hdesk⟩
                  | some eh =>
                      dsimp only
                      rw [happ]
                      cases hagain : eh.function.invoke eh.signature.params x.argumentResolvers
                          (provided h.info e) request app with
                      | mk result next =>
                          have hafter : (s₁.withApp next).desk = { s.desk with app := next } := by
                            show { s₁.desk with app := next } = _
                            rw [hdesk]
                          cases result with
                          | ok v => exact ⟨⟨app, by rw [hagain]⟩, next, hafter⟩
                          | error _ => exact ⟨⟨app, by rw [hagain]⟩, next, hafter⟩

end Memory

/-! ## Like requests -/

section Alike

variable {x : Dispatcher σ} {μ : HeaderMask} {m n : RequestMessage}
  (hcalls : ∀ f, x.registry.Calls f → f.Blind μ)
  (hresolvers : ∀ r ∈ x.argumentResolvers, r.Blind μ) (hmn : μ.message m = μ.message n)

include hcalls hresolvers hmn

/-- By the rule, like requests have one answer in whatever states. -/
theorem answerAfresh_congr {destination : String} {h : Method σ}
    (hget : x.registry.get? destination = some h) (app next app' next' : σ) :
    x.answerAfresh h m app next = x.answerAfresh h n app' next' := by
  have hhandler : h.function.Blind μ := hcalls _ (.inl ⟨destination, h, hget, rfl⟩)
  unfold answerAfresh
  rw [Function.invoke_congr hhandler hresolvers hmn _ _ app app']
  split
  · rfl
  · next e _ =>
      cases hfor : h.info.owner.bind fun owner => x.registry.exceptionHandlerFor? owner e with
      | none => rfl
      | some eh =>
          obtain ⟨owner, _, heh⟩ := Option.bind_eq_some_iff.1 hfor
          have hrecovery : eh.function.Blind μ :=
            hcalls _ (.inr ⟨owner, eh, Registry.mem_of_exceptionHandlerFor? heh, rfl⟩)
          dsimp only
          rw [Function.invoke_congr hrecovery hresolvers hmn _ _ next next']

/-- Like requests have one answer, whatever is remembered. -/
theorem answer_congr (hK : ErrorKind.CoherentOn x.registry.Raises) {destination : String}
    {h : Method σ} (hget : x.registry.get? destination = some h) {s t : State σ}
    (hs : s.Faithful x.registry) (ht : t.Faithful x.registry) :
    (x.answer h m s).1 = (x.answer h n t).1 := by
  obtain ⟨next, hanswer⟩ := (answer_spec hK hs hget m).1
  obtain ⟨next', hanswer'⟩ := (answer_spec hK ht hget n).1
  rw [hanswer, hanswer']
  exact answerAfresh_congr hcalls hresolvers hmn hget _ _ _ _

end Alike

end Dispatcher

/-! ## Like replies -/

/-- Two numbers of messages made before do not show under a mask: it leaves out the ids that are
generated from there on. -/
def HeaderMask.Hides (μ : HeaderMask) (i j : Nat) : Prop :=
  ∀ (k : Nat) (d : HeaderDraft),
    μ.apply (d.finish (generatedId (i + k))) = μ.apply (d.finish (generatedId (j + k)))

theorem HeaderMask.hides_nothing (i : Nat) : HeaderMask.nothing.Hides i i := fun _ _ => rfl

theorem HeaderMask.hides_messageId (i j : Nat) : HeaderMask.messageId.Hides i j := by
  intro k d
  show Headers.withoutId _ = Headers.withoutId _
  unfold Headers.withoutId HeaderDraft.finish
  congr 1
  apply Dict.ext_find?
  intro key
  by_cases hkey : key = HeaderKey.messageId
  · simp [hkey]
  · simp [hkey]

namespace Envelope

variable {μ : HeaderMask} {i j : Nat} (hμ : μ.Hides i j) (k : Nat)

include hμ

theorem requestFor_congr (m : Inbound) (r : Request) (handler : Option MethodInfo) :
    μ.message (requestFor m r handler (generatedId (i + k))) =
      μ.message (requestFor m r handler (generatedId (j + k))) :=
  congrArg (Message.mk r) (hμ k _)

theorem invalidReply_congr (m : Inbound) (details : ErrorDetails) :
    μ.message (invalidReply m details (generatedId (i + k))) =
      μ.message (invalidReply m details (generatedId (j + k))) :=
  congrArg (Message.mk _) (hμ k _)

section Requests

variable {m n : RequestMessage} (hmn : μ.message m = μ.message n)

include hmn

theorem errorReply_congr (details : ErrorDetails) :
    (errorReply m details (generatedId (i + k))).map μ.message =
      (errorReply n details (generatedId (j + k))).map μ.message := by
  unfold errorReply
  rw [HeaderMask.payload_congr hmn, HeaderMask.sessionId?_congr hmn, Option.map_map,
    Option.map_map]
  exact congrArg (fun f => n.payload.id.map f) (funext fun id => congrArg (Message.mk _) (hμ k _))

theorem resultReply_congr (v : Json) (type : ReturnType) :
    (resultReply m v type (generatedId (i + k))).map μ.message =
      (resultReply n v type (generatedId (j + k))).map μ.message := by
  unfold resultReply
  rw [HeaderMask.payload_congr hmn, HeaderMask.sessionId?_congr hmn, Option.map_map,
    Option.map_map]
  exact congrArg (fun f => n.payload.id.map f) (funext fun id => congrArg (Message.mk _) (hμ k _))

end Requests

end Envelope

/-! ## Bindings -/

/-- The subscriptions with one more, if there is one. -/
def Subscriptions.bindIfSome (s : Subscriptions) : Option (String × String) → Subscriptions
  | some (session, method) => (s.bind session method).2
  | none => s

namespace Answer

/-- The session and the method that an answer of a handler binds, if it binds any. -/
def binding? (h : MethodInfo) (request : RequestMessage) : Answer σ → Option (String × String)
  | value _ =>
    request.headers.sessionId?.bind fun session =>
      h.returnType.subscribeMethod.map fun method => (session, method)
  | _ => none

theorem subscriptions_bind (a : Answer σ) (h : MethodInfo) (request : RequestMessage)
    (d : Desk σ) :
    (a.bind h request d).subscriptions = d.subscriptions.bindIfSome (a.binding? h request) := by
  cases a with
  | value v =>
      show (ReturnHandler.bindSession h.returnType request d).subscriptions = _
      unfold ReturnHandler.bindSession binding?
      cases request.headers.sessionId? with
      | none => rfl
      | some session => cases h.returnType.subscribeMethod <;> rfl
  | recovered eh v => rfl
  | failure e => rfl

theorem binding?_congr {μ : HeaderMask} {m n : RequestMessage} (hmn : μ.message m = μ.message n)
    (a : Answer σ) (h : MethodInfo) : a.binding? h m = a.binding? h n := by
  unfold binding?
  rw [HeaderMask.sessionId?_congr hmn]

theorem reply_congr {μ : HeaderMask} {i j : Nat} (hμ : μ.Hides i j) (k : Nat)
    {m n : RequestMessage} (hmn : μ.message m = μ.message n) (a : Answer σ) (h : MethodInfo) :
    (a.reply h m (generatedId (i + k))).map μ.message =
      (a.reply h n (generatedId (j + k))).map μ.message := by
  cases a with
  | value v => exact Envelope.resultReply_congr hμ k hmn v h.returnType
  | recovered eh v => exact Envelope.resultReply_congr hμ k hmn v eh.returnType
  | failure e => exact Envelope.errorReply_congr hμ k hmn e.toDetails

end Answer

namespace Dispatcher

/-! ## One dispatch in two states -/

/-- A message is dispatched alike in two states: with the same outcome, with the same replies
once they are masked, and with the same binding, if any. -/
structure Alike (μ : HeaderMask) (x : Dispatcher σ) (m : Inbound) (s t : State σ) : Prop where
  /-- The outcome is the same. -/
  outcome : (x.dispatch m s).1 = (x.dispatch m t).1
  /-- The replies are the same, once they are masked. -/
  replies : (x.replies m s).map μ.message = (x.replies m t).map μ.message
  /-- One and the same binding is added, or none. -/
  binding : ∃ b,
    (x.dispatch m s).2.desk.subscriptions = s.desk.subscriptions.bindIfSome b ∧
    (x.dispatch m t).2.desk.subscriptions = t.desk.subscriptions.bindIfSome b

/-- The state after some messages were dispatched, one after the other. -/
def after (x : Dispatcher σ) (ms : List Inbound) (s : State σ) : State σ :=
  ms.foldl (fun s m => (x.dispatch m s).2) s

/-- The same state after another number of messages was made. -/
def State.numbered (s : State σ) (n : Nat) : State σ :=
  { s with desk := { s.desk with made := n } }

section Faithful

variable {x : Dispatcher σ} {s : State σ} {h : Method σ} {request : RequestMessage} {e : Failure}

/-- A call fails with a failure of the function's own, or with one of the library. -/
theorem kinds_of_run {f : Function σ} {params : List Param} {provided : List Argument}
    {type : ReturnType} {d : Desk σ}
    (hfailed : (x.run f params type provided request d).1 = .failed e) :
    f.Fails e ∨ ∀ k ∈ e.kinds, k ∈ ErrorKind.builtin := by
  cases hinvoke : f.invoke params x.argumentResolvers provided request d.app with
  | mk result app =>
      cases result with
      | error e' =>
          rw [run_of_error type hinvoke] at hfailed
          cases hfailed
          exact Function.kinds_of_invoke (congrArg Prod.fst hinvoke)
      | ok v =>
          rw [run_of_invoke_ok hinvoke] at hfailed
          cases hhandle : (ReturnHandler.handleBy x.returnHandlers v type request
              { d with app }).1 with
          | value u => rw [hhandle] at hfailed; cases hfailed
          | panicked p => rw [hhandle] at hfailed; cases hfailed
          | failed error =>
              rw [hhandle] at hfailed
              cases hfailed
              exact .inr (Failure.kinds_ofBusError error)

theorem raises_of_attempt {destination : String} (hget : x.registry.get? destination = some h)
    (hfailed : (x.attempt h request s).1 = .failed e) : ∀ k ∈ e.kinds, x.registry.Raises k := by
  intro k hk
  rcases kinds_of_run hfailed with hfails | hown
  · exact .inr ⟨destination, h, e, hget, hfails, hk⟩
  · exact .inl (hown k hk)

variable (hK : ErrorKind.CoherentOn x.registry.Raises)

include hK

/-- A dispatch keeps the memory right, whatever the application's return handlers do. -/
theorem faithful_dispatch (m : Inbound) (hs : s.Faithful x.registry) :
    (x.dispatch m s).2.Faithful x.registry := by
  -- Only the choice of an exception handler works on the memory; all else works on the desk.
  refine dispatch_preserves (P := fun t => t.Faithful x.registry) (fun _ _ ht => ht) hs id
    (fun _ _ _ ht => ht) ?_ (fun _ _ _ _ _ ht => ht)
  intro h request e s₁ hreach hfailed hs₁
  obtain ⟨destination, _, _, _, hget, _⟩ := hreach
  unfold chosen?
  split
  · exact hs₁
  · next owner _ =>
      exact (exceptionHandler?_spec hK hs₁ owner (raises_of_attempt hget (by rw [hfailed]))).2

/-- So does any number of dispatches. -/
theorem faithful_after (ms : List Inbound) (hs : s.Faithful x.registry) :
    (x.after ms s).Faithful x.registry := by
  induction ms generalizing s with
  | nil => exact hs
  | cons m ms ih => exact ih (faithful_dispatch hK m hs)

end Faithful

section BuiltIn

variable {registry : Registry σ} {resolvers : List (ArgumentResolver σ)} {μ : HeaderMask}
  (hcalls : ∀ f, registry.Calls f → f.Blind μ) (hresolvers : ∀ r ∈ resolvers, r.Blind μ)
  (hK : ErrorKind.CoherentOn registry.Raises)

include hcalls hresolvers hK

theorem alike_of_registered {m : Inbound} {destination : String} {r : Request} {h : Method σ}
    (hto : Envelope.destination? m = some destination)
    (hr : Request.decode m.payload.toDoc = .ok r) (hget : registry.get? destination = some h)
    {s t : State σ} (hs : s.Faithful registry) (ht : t.Faithful registry)
    (hids : μ.Hides s.desk.made t.desk.made) : Alike μ (builtIn registry resolvers) m s t := by
  let x := builtIn registry resolvers
  let request (s : State σ) : RequestMessage :=
    Envelope.requestFor m r (some h.info) (generatedId s.desk.made)
  have hall : ∀ r ∈ x.argumentResolvers, r.Blind μ := by
    intro r hmem
    rcases List.mem_append.1 hmem with hstandard | hcustom
    · exact ArgumentResolver.blind_standard μ r hstandard
    · exact hresolvers r hcustom
  have hlike : μ.message (request s) = μ.message (request t) :=
    Envelope.requestFor_congr hids 0 m r (some h.info)
  have hanswer : (x.answer h (request s) s.fresh).1 = (x.answer h (request t) t.fresh).1 :=
    answer_congr (x := x) hcalls hall hlike hK hget hs ht
  obtain ⟨_, hdesk⟩ := (answer_spec (x := x) hK (s := s.fresh) hs hget (request s)).2
  obtain ⟨_, hdesk'⟩ := (answer_spec (x := x) hK (s := t.fresh) ht hget (request t)).2
  refine ⟨?_, ?_, (x.answer h (request s) s.fresh).1.binding? h.info (request s), ?_, ?_⟩
  · rw [dispatch_of_registered hto hr hget, dispatch_of_registered hto hr hget, handle_eq,
      handle_eq]
    exact congrArg (fun a : Answer σ => Except.ok a.outcome) hanswer
  · rw [replies_of_registered hto hr hget, replies_of_registered hto hr hget,
      ← Option.toList_map, ← Option.toList_map]
    have hmade : (x.answer h (request s) s.fresh).2.desk.made = s.desk.made + 1 := by
      rw [hdesk]
      rfl
    have hmade' : (x.answer h (request t) t.fresh).2.desk.made = t.desk.made + 1 := by
      rw [hdesk']
      rfl
    show Option.toList (((x.answer h (request s) s.fresh).1.reply h.info (request s) _).map _) =
      Option.toList (((x.answer h (request t) t.fresh).1.reply h.info (request t) _).map _)
    rw [hmade, hmade', hanswer, Answer.reply_congr hids 1 hlike]
  · rw [dispatch_of_registered hto hr hget, handle_eq]
    show (Answer.bind h.info (request s) _ _).subscriptions = _
    rw [Answer.subscriptions_bind, hdesk]
    rfl
  · rw [dispatch_of_registered hto hr hget, handle_eq]
    show (Answer.bind h.info (request t) _ _).subscriptions = _
    rw [Answer.subscriptions_bind, hdesk', Answer.binding?_congr hlike, hanswer]
    rfl

/-- While the memories of two states are right, a message is dispatched alike in them. -/
theorem alike_of_faithful (m : Inbound) {s t : State σ} (hs : s.Faithful registry)
    (ht : t.Faithful registry) (hids : μ.Hides s.desk.made t.desk.made) :
    Alike μ (builtIn registry resolvers) m s t := by
  cases hto : Envelope.destination? m with
  | none =>
      refine ⟨?_, ?_, none, ?_, ?_⟩
      · rw [dispatch_of_ignored hto, dispatch_of_ignored hto]
      · rw [replies_of_ignored hto, replies_of_ignored hto]
      · rw [dispatch_of_ignored hto]
        rfl
      · rw [dispatch_of_ignored hto]
        rfl
  | some destination =>
      cases hr : Request.decode m.payload.toDoc with
      | error e =>
          refine ⟨?_, ?_, none, ?_, ?_⟩
          · rw [dispatch_of_invalid hto hr, dispatch_of_invalid hto hr]
          · rw [replies_of_invalid hto hr, replies_of_invalid hto hr]
            exact congrArg (fun reply => [reply]) (Envelope.invalidReply_congr hids 1 m _)
          · rw [dispatch_of_invalid hto hr]
            rfl
          · rw [dispatch_of_invalid hto hr]
            rfl
      | ok r =>
          cases hget : registry.get? destination with
          | none =>
              have hmn := Envelope.requestFor_congr hids 0 m r none
              refine ⟨?_, ?_, none, ?_, ?_⟩
              · rw [dispatch_of_unregistered hto hr hget, dispatch_of_unregistered hto hr hget]
              · rw [replies_of_unregistered hto hr hget, replies_of_unregistered hto hr hget,
                  ← Option.toList_map, ← Option.toList_map]
                exact congrArg Option.toList (Envelope.errorReply_congr hids 1 hmn _)
              · rw [dispatch_of_unregistered hto hr hget]
                rfl
              · rw [dispatch_of_unregistered hto hr hget]
                rfl
          | some h => exact alike_of_registered hcalls hresolvers hK hto hr hget hs ht hids

end BuiltIn

/-- Whatever was dispatched before, a message is dispatched alike: on the whole if the same ids
are drawn, and up to the ids of messages if nobody looks at those. -/
theorem alike_after (registry : Registry σ) (resolvers : List (ArgumentResolver σ))
    (hcalls : ∀ f, registry.Calls f → f.Pure) (hresolvers : ∀ r ∈ resolvers, r.Pure)
    (hK : ErrorKind.CoherentOn registry.Raises) (d e : Desk σ) (before other : List Inbound)
    (m : Inbound) :
    let x := builtIn registry resolvers
    let s := x.after before { desk := d }
    let t := x.after other { desk := e }
    (∀ n, Alike .nothing x m (s.numbered n) (t.numbered n)) ∧
    ((∀ f, registry.Calls f → f.Blind .messageId) → (∀ r ∈ resolvers, r.Blind .messageId) →
      Alike .messageId x m s t) := by
  intro x s t
  have hs : s.Faithful registry := faithful_after hK before ResolverCache.faithful_empty
  have ht : t.Faithful registry := faithful_after hK other ResolverCache.faithful_empty
  constructor
  · intro n
    have hnumbered : (s.numbered n).Faithful registry := hs
    have hnumbered' : (t.numbered n).Faithful registry := ht
    exact alike_of_faithful (fun f hf => (hcalls f hf).blind) (fun r hr => (hresolvers r hr).blind)
      hK m hnumbered hnumbered' (HeaderMask.hides_nothing n)
  · intro hcalls hresolvers
    exact alike_of_faithful hcalls hresolvers hK m hs ht (HeaderMask.hides_messageId _ _)

/-- A kind of failure of the application. -/
def refusal : ErrorKind := .child "Refusal" .runtime

/-- A handler that counts its calls and always fails. -/
def refuse : Method Nat :=
  Method.withOwner (.request "pay"
    { id := "refuse", name := "refuse", takes := .none, returns := "()"
      run := fun _ n => (.failed (.new refusal "no"), n + 1) }) "Till"

/-- An exception handler that counts its calls and gives a value. -/
def explain : ExceptionHandler Nat :=
  .forKinds [.runtime]
    { id := "explain", name := "explain", takes := .none, returns := "String"
      run := fun _ n => (.value (.ok (.string "refused")), n + 1) }

/-- A registry with both of them. -/
def till : Registry Nat where
  handlers := Dict.empty.insert "pay" refuse
  exceptionHandlers := Dict.empty.insert "Till" [explain]

/-- A request for the handler. -/
def payment : Inbound :=
  ⟨.object [("id", .integer 1), ("method", .string "pay")], .empty⟩

/-- The third payment is dispatched like a first one. -/
theorem alike_after_payments :
    (∀ f, till.Calls f → f.Pure) ∧ ErrorKind.CoherentOn till.Raises ∧
    Alike .messageId (builtIn till []) payment
      ((builtIn till []).after [payment, payment] { desk := { app := 0 } })
      ((builtIn till []).after [] { desk := { app := 5 } }) := by
  have hget : ∀ {destination h}, till.get? destination = some h → h = refuse := by
    intro destination h hh
    have hfind : (Dict.empty.insert "pay" refuse).find? destination = some h := hh
    rw [Dict.find?_insert] at hfind
    split at hfind
    · cases hfind
      rfl
    · cases hfind
  have hof : ∀ {owner eh}, eh ∈ till.exceptionHandlersOf owner → eh = explain := by
    intro owner eh heh
    have hmem : eh ∈ ((Dict.empty.insert "Till" [explain]).find? owner).getD [] := heh
    rw [Dict.find?_insert] at hmem
    split at hmem
    · exact List.mem_singleton.1 hmem
    · cases hmem
  have hfunction : ∀ f, till.Calls f → f = refuse.function ∨ f = explain.function := by
    rintro f (⟨_, h, hh, rfl⟩ | ⟨_, eh, heh, rfl⟩)
    · exact .inl (congrArg Method.function (hget hh))
    · exact .inr (congrArg ExceptionHandler.function (hof heh))
  have hpure : ∀ f, till.Calls f → f.Pure := by
    intro f hf
    rcases hfunction f hf with rfl | rfl
    · exact fun _ _ _ => rfl
    · exact fun _ _ _ => rfl
  have hblind : ∀ f, till.Calls f → f.Blind .messageId := by
    intro f hf
    rcases hfunction f hf with rfl | rfl
    · exact fun _ _ _ _ _ _ => rfl
    · exact fun _ _ _ _ _ _ => rfl
  have hraised : ∀ k, till.Raises k → k ∈ refusal :: ErrorKind.builtin := by
    rintro k (hown | ⟨_, h, e, hh, ⟨_, _, _, hfails⟩, hk⟩)
    · exact List.mem_cons_of_mem _ hown
    · rw [hget hh] at hfails
      cases hfails
      rw [List.mem_singleton.1 hk]
      exact List.mem_cons_self
  have hlisted : ErrorKind.Coherent (refusal :: ErrorKind.builtin) := by decide
  have hK : ErrorKind.CoherentOn till.Raises := fun k l hk hl hname =>
    hlisted k (hraised k hk) l (hraised l hl) hname
  exact ⟨hpure, hK, (alike_after till [] hpure nofun hK { app := 0 } { app := 5 }
    [payment, payment] [] payment).2 hblind nofun⟩

end Dispatcher

end Switchboard
