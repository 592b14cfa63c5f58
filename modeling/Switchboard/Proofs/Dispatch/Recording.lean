/-
# Switchboard.Proofs.Dispatch.Recording -- which functions a dispatch calls

What runs during a dispatch cannot be seen from its result, so the dispatch is watched. Every
function of the application is given a note to write when it is called (`Function.noting`), and
the notes stand beside the state of the application. `dispatch_noting` says that watching changes
nothing: the dispatch ends in the same way and in the same state, and the notes have grown by
`calls`.
-/

import Switchboard.Proofs.Dispatch.Handling

namespace Switchboard

/-- A call of a function of the application. -/
inductive Invocation where
  /-- The handler of a destination is called. -/
  | handler (destination : String)
  /-- An exception handler is called. -/
  | recovery (handler : Signature)
deriving DecidableEq, Repr

variable {σ : Type}

/-! ## Watched functions -/

/-- The function, which notes its calls. -/
def Function.noting (f : Function σ) (call : Invocation) : Function (σ × List Invocation) where
  id := f.id
  name := f.name
  Args := f.Args
  takes := f.takes
  returns := f.returns
  run args s := ((f.run args s.1).1, ((f.run args s.1).2, s.2 ++ [call]))

/-- The method, which notes its calls. -/
def Method.noting (m : Method σ) (call : Invocation) : Method (σ × List Invocation) where
  info := m.info
  function := m.function.noting call
  fits := m.fits

/-- The exception handler, which notes its calls. -/
def ExceptionHandler.noting (h : ExceptionHandler σ) : ExceptionHandler (σ × List Invocation) where
  signature := h.signature
  kinds := h.kinds
  function := h.function.noting (.recovery h.signature)
  fits := h.fits

/-- The argument resolver, which does not touch the notes. -/
def ArgumentResolver.beside (r : ArgumentResolver σ) : ArgumentResolver (σ × List Invocation) where
  supports := r.supports
  resolve p m s := ((r.resolve p m s.1).1, ((r.resolve p m s.1).2, s.2))

/-- The registry of the watched handlers. -/
def Registry.noting (r : Registry σ) : Registry (σ × List Invocation) where
  handlers := r.handlers.filterMap fun d h => some (h.noting (.handler d))
  exceptionHandlers := r.exceptionHandlers.filterMap fun _ hs => some (hs.map .noting)

@[simp] theorem Registry.get?_noting (r : Registry σ) (destination : String) :
    r.noting.get? destination =
      (r.get? destination).map fun h => h.noting (.handler destination) := by
  show (r.handlers.filterMap _).find? destination = _
  rw [Dict.find?_filterMap]
  show ((r.get? destination).bind _) = _
  cases r.get? destination <;> rfl

theorem Registry.exceptionHandlersOf_noting (r : Registry σ) (owner : String) :
    r.noting.exceptionHandlersOf owner = (r.exceptionHandlersOf owner).map ExceptionHandler.noting := by
  show ((r.exceptionHandlers.filterMap _).find? owner).getD [] =
    ((r.exceptionHandlers.find? owner).getD []).map ExceptionHandler.noting
  rw [Dict.find?_filterMap]
  cases r.exceptionHandlers.find? owner <;> rfl

/-! ## Binding and calling -/

namespace ArgumentResolver

variable (rs : List (ArgumentResolver σ)) (m : RequestMessage) (log : List Invocation)

theorem bind_beside (p : Param) (s : σ) :
    bind (rs.map beside) m p (s, log) = ((bind rs m p s).1, ((bind rs m p s).2, log)) := by
  unfold bind
  -- The watched resolvers support the same parameters, so the same one is found.
  rw [List.find?_map,
    show (fun r : ArgumentResolver (σ × List Invocation) => r.supports p) ∘ beside =
    fun r : ArgumentResolver σ => r.supports p from rfl]
  cases rs.find? fun r => r.supports p <;> rfl

theorem bindWith_beside (provided : List Argument) (p : Param) (s : σ) :
    bindWith (rs.map beside) provided m p (s, log) =
      ((bindWith rs provided m p s).1, ((bindWith rs provided m p s).2, log)) := by
  unfold bindWith
  cases provided.find? fun a => a.suits p.source with
  | none => exact bind_beside rs m log p s
  | some a => rfl

theorem bindAll_beside (provided : List Argument) (ps : List Param) (s : σ) :
    bindAll (rs.map beside) provided m ps (s, log) =
      ((bindAll rs provided m ps s).1, ((bindAll rs provided m ps s).2, log)) := by
  induction ps generalizing s with
  | nil => rfl
  | cons p ps ih =>
      unfold bindAll
      rw [bindWith_beside]
      cases bindWith rs provided m p s with
      | mk result t =>
          cases result with
          | value a =>
              dsimp only
              rw [ih]
          | failed e => rfl
          | panicked q => rfl

end ArgumentResolver

/-- Whether code ended with a value. -/
def Attempt.isValue {ε α : Type} : Attempt ε α → Bool
  | value _ => true
  | _ => false

namespace Function

/-- Whether a function can read its arguments. -/
def reads (f : Function σ) (params : List Param) (arguments : List Argument) : Bool :=
  (f.takes.read (params.zip arguments)).isValue

/-- Whether a call comes so far that the function itself runs: all parameters are bound and all
arguments can be read. -/
def reached (f : Function σ) (params : List Param) (rs : List (ArgumentResolver σ))
    (provided : List Argument) (m : RequestMessage) (s : σ) : Bool :=
  match ArgumentResolver.bindAll rs provided m params s with
  | (.value arguments, _) => f.reads params arguments
  | _ => false

section Calling

variable {f : Function σ} {params : List Param} {arguments : List Argument}

theorem call_of_value {args : f.Args} (h : f.takes.read (params.zip arguments) = .value args)
    (s : σ) : f.call params arguments s =
      ((f.run args s).1.bind (encode f.returns), (f.run args s).2) := by
  unfold call
  rw [h]

theorem call_of_failed {e : Failure} (h : f.takes.read (params.zip arguments) = .failed e)
    (s : σ) : f.call params arguments s = (.failed e, s) := by
  unfold call
  rw [h]

theorem call_of_panicked {p : Panic} (h : f.takes.read (params.zip arguments) = .panicked p)
    (s : σ) : f.call params arguments s = (.panicked p, s) := by
  unfold call
  rw [h]

/-- A watched function ends like any other, with a note if it ran. -/
theorem call_noting (call : Invocation) (s : σ) (log : List Invocation) :
    (f.noting call).call params arguments (s, log) =
      ((f.call params arguments s).1, ((f.call params arguments s).2,
        log ++ if f.reads params arguments then [call] else [])) := by
  cases hread : f.takes.read (params.zip arguments) with
  | value args =>
      have hwatched : (f.noting call).takes.read (params.zip arguments) = .value args := hread
      have hreads : f.reads params arguments = true := by simp [reads, hread, Attempt.isValue]
      rw [call_of_value hread, call_of_value hwatched, hreads]
      rfl
  | failed e =>
      have hwatched : (f.noting call).takes.read (params.zip arguments) = .failed e := hread
      have hreads : f.reads params arguments = false := by simp [reads, hread, Attempt.isValue]
      rw [call_of_failed hread, call_of_failed hwatched, hreads]
      simp
  | panicked p =>
      have hwatched : (f.noting call).takes.read (params.zip arguments) = .panicked p := hread
      have hreads : f.reads params arguments = false := by simp [reads, hread, Attempt.isValue]
      rw [call_of_panicked hread, call_of_panicked hwatched, hreads]
      simp

end Calling

/-- A watched call ends like any other, with a note if the function ran. -/
theorem invoke_noting (f : Function σ) (call : Invocation) (params : List Param)
    (rs : List (ArgumentResolver σ)) (provided : List Argument) (m : RequestMessage) (s : σ)
    (log : List Invocation) :
    (f.noting call).invoke params (rs.map .beside) provided m (s, log) =
      ((f.invoke params rs provided m s).1, ((f.invoke params rs provided m s).2,
        log ++ if f.reached params rs provided m s then [call] else [])) := by
  unfold invoke reached
  rw [ArgumentResolver.bindAll_beside]
  cases ArgumentResolver.bindAll rs provided m params s with
  | mk result t =>
      cases result with
      | value arguments =>
          dsimp only
          rw [call_noting]
      | failed e => simp
      | panicked p => simp

end Function

/-! ## Choosing an exception handler -/

universe u

/-- The resolver with other candidates in the same places. -/
def Resolver.map {α β : Type u} (f : α → β) (r : Resolver α) : Resolver β where
  candidates := r.candidates.map fun c => (c.1, f c.2)
  known := r.known

namespace Resolver

variable {α β : Type u} (f : α → β) (r : Resolver α)

theorem map_ofCandidates (cs : List (List ErrorKind × α)) :
    (ofCandidates cs).map f = ofCandidates (cs.map fun c => (c.1, f c.2)) := rfl

theorem declarations_map : (r.map f).declarations = r.declarations := by
  unfold declarations Resolver.map
  rw [List.map_map]
  rfl

theorem resolveKind_map (k : ErrorKind) :
    (r.map f).resolveKind k = ((r.resolveKind k).1, (r.resolveKind k).2.map f) := by
  unfold resolveKind
  rw [declarations_map, show (r.map f).known = r.known from rfl]
  cases r.known.find? k.name <;> rfl

theorem resolveLinks_map (ls : List Link) :
    (r.map f).resolveLinks ls = ((r.resolveLinks ls).1, (r.resolveLinks ls).2.map f) := by
  -- The resolver remembers what it finds, so it changes from one error to the next.
  induction ls generalizing r with
  | nil => rfl
  | cons l ls ih =>
      unfold resolveLinks
      rw [resolveKind_map]
      cases r.resolveKind l.kind with
      | mk found r' =>
          cases found with
          | none => exact ih r'
          | some n => rfl

theorem resolve_map (e : Failure) :
    (r.map f).resolve e = ((r.resolve e).1.map f, (r.resolve e).2.map f) := by
  unfold resolve
  rw [resolveLinks_map]
  cases r.resolveLinks e.chain with
  | mk n r' =>
      cases n with
      | none => rfl
      | some n =>
          show (((r'.map f).candidates[n]?).map Prod.snd, _) =
            (((r'.candidates[n]?).map Prod.snd).map f, _)
          unfold Resolver.map
          rw [List.getElem?_map]
          cases r'.candidates[n]? <;> rfl

end Resolver

/-- The cache with something else for each owner. -/
def OwnerCache.map {ρ τ : Type u} (f : ρ → τ) (c : OwnerCache ρ) : OwnerCache τ where
  byOwner := c.byOwner.filterMap fun _ r => some (f r)

namespace OwnerCache

variable {ρ τ : Type u} (f : ρ → τ) (c : OwnerCache ρ) (owner : String)

theorem look?_map : (c.map f).look? owner = (c.look? owner).map f := by
  show (c.byOwner.filterMap _).find? owner = _
  rw [Dict.find?_filterMap]
  show ((c.look? owner).bind _) = _
  cases c.look? owner <;> rfl

theorem update_map (r : ρ) : (c.map f).update owner (f r) = (c.update owner r).map f := by
  unfold update OwnerCache.map
  congr 1
  refine Dict.ext_find? fun k => ?_
  by_cases hk : k = owner <;> simp [hk]

theorem getOrCreate_map (r : ρ) :
    (c.map f).getOrCreate owner (fun _ => f r) =
      (f (c.getOrCreate owner fun _ => r).1, (c.getOrCreate owner fun _ => r).2.map f) := by
  unfold getOrCreate keep
  rw [look?_map]
  cases hlook : c.look? owner with
  | some first => rfl
  | none => exact Prod.ext rfl (update_map f c owner r)

end OwnerCache

theorem ResolverCache.resolve_map {α β : Type u} (f : α → β) (c : ResolverCache α) (owner : String)
    (r : Resolver α) (e : Failure) :
    ResolverCache.resolve (c.map (Resolver.map f)) owner (fun _ => r.map f) e =
      ((c.resolve owner (fun _ => r) e).1.map f,
        (c.resolve owner (fun _ => r) e).2.map (Resolver.map f)) := by
  obtain ⟨first, c', hmade⟩ : ∃ first c', c.getOrCreate owner (fun _ => r) = (first, c') :=
    ⟨_, _, rfl⟩
  unfold ResolverCache.resolve
  rw [OwnerCache.getOrCreate_map, hmade]
  dsimp only
  rw [Resolver.resolve_map]
  exact Prod.ext rfl (OwnerCache.update_map (Resolver.map f) c' owner (first.resolve e).2)

/-! ## A watched dispatch -/

/-- The answer, as a watched dispatcher finds it. -/
def Answer.noting : Answer σ → Answer (σ × List Invocation)
  | value v => value v
  | recovered eh v => recovered eh.noting v
  | failure e => failure e

namespace Dispatcher

/-- The state with notes beside that of the application. -/
def State.noting (s : State σ) (log : List Invocation) : State (σ × List Invocation) where
  desk :=
    { app := (s.desk.app, log), subscriptions := s.desk.subscriptions, outbox := s.desk.outbox
      made := s.desk.made }
  recovery := s.recovery.map (Resolver.map ExceptionHandler.noting)

/-- The dispatcher whose functions note their calls. -/
def watched (registry : Registry σ) (resolvers : List (ArgumentResolver σ)) :
    Dispatcher (σ × List Invocation) :=
  builtIn registry.noting (resolvers.map .beside)

/-- The functions that the dispatch of a message calls, in order. -/
def calls (registry : Registry σ) (resolvers : List (ArgumentResolver σ)) (m : Inbound)
    (s : State σ) : List Invocation :=
  ((watched registry resolvers).dispatch m (s.noting [])).2.desk.app.2

variable {registry : Registry σ} {resolvers : List (ArgumentResolver σ)} {m : Inbound}
  {s : State σ} {destination : String} {r : Request}

theorem argumentResolvers_watched :
    (watched registry resolvers).argumentResolvers =
      (builtIn registry resolvers).argumentResolvers.map .beside := rfl

theorem exceptionHandler?_noting (owner : String) (e : Failure) (log : List Invocation) :
    (watched registry resolvers).exceptionHandler? owner e (s.noting log) =
      (((builtIn registry resolvers).exceptionHandler? owner e s).1.map .noting,
        ((builtIn registry resolvers).exceptionHandler? owner e s).2.noting log) := by
  have hcandidates : (registry.noting.exceptionHandlersOf owner).map
      (fun h : ExceptionHandler (σ × List Invocation) => (h.kinds, h)) =
        ((registry.exceptionHandlersOf owner).map fun h => (h.kinds, h)).map
          fun c => (c.1, c.2.noting) := by
    rw [Registry.exceptionHandlersOf_noting, List.map_map, List.map_map]
    rfl
  unfold exceptionHandler?
  rw [show (watched registry resolvers).registry = registry.noting from rfl, hcandidates]
  dsimp only
  rw [← Resolver.map_ofCandidates ExceptionHandler.noting,
    show (s.noting log).recovery = s.recovery.map (Resolver.map .noting) from rfl,
    ResolverCache.resolve_map]
  rfl

/-- The calls of a handler's function, as `call` notes them. -/
def handlerCalls (x : Dispatcher σ) (h : Method σ) (call : Invocation) (request : RequestMessage)
    (s : State σ) : List Invocation :=
  if h.function.reached h.info.signature.params x.argumentResolvers [] request s.desk.app then
    [call]
  else []

/-- The calls of exception handlers after the call of a handler. -/
def recoveryCalls (x : Dispatcher σ) (h : Method σ) (request : RequestMessage) (s : State σ) :
    List Invocation :=
  match h.function.invoke h.info.signature.params x.argumentResolvers [] request s.desk.app with
  | (.ok _, _) => []
  | (.error e, app) =>
    match h.info.owner with
    | none => []
    | some owner =>
      match x.exceptionHandler? owner e (s.withApp app) with
      | (none, _) => []
      | (some eh, s) =>
        if eh.function.reached eh.signature.params x.argumentResolvers (provided h.info e) request
          s.desk.app then [.recovery eh.signature] else []

theorem withApp_noting (app : σ) (log log' : List Invocation) :
    (s.noting log).withApp (app, log') = (s.withApp app).noting log' := rfl

/-- Finding an answer under watch. -/
theorem answer_noting (h : Method σ) (call : Invocation) (request : RequestMessage)
    (log : List Invocation) :
    (watched registry resolvers).answer (h.noting call) request (s.noting log) =
      (((builtIn registry resolvers).answer h request s).1.noting,
        ((builtIn registry resolvers).answer h request s).2.noting
          (log ++ (builtIn registry resolvers).handlerCalls h call request s ++
            (builtIn registry resolvers).recoveryCalls h request s)) := by
  have hfirst := h.function.invoke_noting call h.info.signature.params
    (builtIn registry resolvers).argumentResolvers [] request s.desk.app log
  have hagain := fun (eh : ExceptionHandler σ) (e : Failure) (t : State σ) (log : List Invocation) =>
    eh.function.invoke_noting (.recovery eh.signature) eh.signature.params
      (builtIn registry resolvers).argumentResolvers (provided h.info e) request t.desk.app log
  -- Both sides make the same choices, for they see the same results; only the notes differ.
  unfold answer
  rw [argumentResolvers_watched,
    show (h.noting call).function = h.function.noting call from rfl,
    show (h.noting call).info = h.info from rfl,
    show (s.noting log).desk.app = (s.desk.app, log) from rfl, hfirst]
  unfold recoveryCalls
  cases h.function.invoke h.info.signature.params
      (builtIn registry resolvers).argumentResolvers [] request s.desk.app with
  | mk result app =>
      cases result with
      | ok v =>
          dsimp only
          rw [List.append_nil]
          rfl
      | error e =>
          dsimp only
          cases h.info.owner with
          | none =>
              dsimp only
              rw [List.append_nil]
              rfl
          | some owner =>
              dsimp only
              rw [withApp_noting, exceptionHandler?_noting]
              cases (builtIn registry resolvers).exceptionHandler? owner e (s.withApp app) with
              | mk choice s₁ =>
                  cases choice with
                  | none =>
                      dsimp only
                      rw [List.append_nil]
                      rfl
                  | some eh =>
                      dsimp only [Option.map_some]
                      rw [show eh.noting.function =
                          eh.function.noting (.recovery eh.signature) from rfl,
                        show eh.noting.signature = eh.signature from rfl,
                        show ∀ log, (s₁.noting log).desk.app = (s₁.desk.app, log) from
                          fun _ => rfl, hagain]
                      cases eh.function.invoke eh.signature.params
                          (builtIn registry resolvers).argumentResolvers (provided h.info e)
                          request s₁.desk.app with
                      | mk result app₁ => cases result <;> rfl

/-- Dealing with an answer calls nothing. -/
theorem settle_noting (h : Method σ) (call : Invocation) (request : RequestMessage) (a : Answer σ)
    (log : List Invocation) :
    settle (h.noting call) request a.noting (s.noting log) =
      (settle h request a s).noting log := by
  cases a with
  | value v =>
      unfold settle Answer.bind Answer.noting ReturnHandler.bindSession
      dsimp only
      rw [show (h.noting call).info = h.info from rfl]
      split <;> rfl
  | recovered eh v => rfl
  | failure e => rfl

/-- A watched dispatch to a handler. -/
theorem dispatch_noting_of_registered {h : Method σ}
    (hto : Envelope.destination? m = some destination)
    (hr : Request.decode m.payload.toDoc = .ok r) (hsome : registry.get? destination = some h)
    (log : List Invocation) :
    let request := Envelope.requestFor m r (some h.info) (generatedId s.desk.made)
    let x := builtIn registry resolvers
    (watched registry resolvers).dispatch m (s.noting log) =
      ((x.dispatch m s).1, (x.dispatch m s).2.noting
        (log ++ x.handlerCalls h (.handler destination) request s.fresh ++
          x.recoveryCalls h request s.fresh)) := by
  intro request x
  have hwatched : (watched registry resolvers).registry.get? destination =
      some (h.noting (.handler destination)) := by
    rw [show (watched registry resolvers).registry = registry.noting from rfl,
      Registry.get?_noting, hsome]
    rfl
  have hplain : x.dispatch m s = x.handle h request s.fresh := dispatch_of_registered hto hr hsome
  rw [hplain, handle_eq, dispatch_of_registered hto hr hwatched]
  show (watched registry resolvers).handle (h.noting (.handler destination)) request
    (s.fresh.noting log) = _
  unfold watched
  rw [handle_eq]
  show (Except.ok ((watched registry resolvers).answer (h.noting (.handler destination)) request
    (s.fresh.noting log)).1.outcome, settle _ request ((watched registry resolvers).answer
      (h.noting (.handler destination)) request (s.fresh.noting log)).1
        ((watched registry resolvers).answer (h.noting (.handler destination)) request
          (s.fresh.noting log)).2) = _
  rw [answer_noting, settle_noting]
  cases (x.answer h request s.fresh).1 <;> rfl

theorem calls_of_ignored (h : Envelope.destination? m = none) :
    calls registry resolvers m s = [] := by
  unfold calls
  rw [dispatch_of_ignored h]
  rfl

theorem calls_of_invalid {e : Json.DecodeError}
    (hto : Envelope.destination? m = some destination)
    (he : Request.decode m.payload.toDoc = .error e) : calls registry resolvers m s = [] := by
  unfold calls
  rw [dispatch_of_invalid hto he]
  rfl

theorem calls_of_unregistered (hto : Envelope.destination? m = some destination)
    (hr : Request.decode m.payload.toDoc = .ok r) (hnone : registry.get? destination = none) :
    calls registry resolvers m s = [] := by
  have hwatched : (watched registry resolvers).registry.get? destination = none := by
    rw [show (watched registry resolvers).registry = registry.noting from rfl,
      Registry.get?_noting, hnone]
    rfl
  unfold calls
  rw [dispatch_of_unregistered hto hr hwatched]
  rfl

theorem calls_of_registered {h : Method σ} (hto : Envelope.destination? m = some destination)
    (hr : Request.decode m.payload.toDoc = .ok r) (hsome : registry.get? destination = some h) :
    let request := Envelope.requestFor m r (some h.info) (generatedId s.desk.made)
    let x := builtIn registry resolvers
    calls registry resolvers m s = x.handlerCalls h (.handler destination) request s.fresh ++
      x.recoveryCalls h request s.fresh := by
  intro request x
  unfold calls
  rw [dispatch_noting_of_registered hto hr hsome]
  rfl

/-- Watching a dispatch changes nothing but the notes. -/
theorem dispatch_noting (log : List Invocation) :
    (watched registry resolvers).dispatch m (s.noting log) =
      (((builtIn registry resolvers).dispatch m s).1,
        ((builtIn registry resolvers).dispatch m s).2.noting
          (log ++ calls registry resolvers m s)) := by
  cases hto : Envelope.destination? m with
  | none =>
      rw [calls_of_ignored hto, List.append_nil, dispatch_of_ignored hto, dispatch_of_ignored hto]
  | some destination =>
      cases hr : Request.decode m.payload.toDoc with
      | error e =>
          rw [calls_of_invalid hto hr, List.append_nil, dispatch_of_invalid hto hr,
            dispatch_of_invalid hto hr]
          rfl
      | ok r =>
          cases hget : registry.get? destination with
          | none =>
              have hwatched : (watched registry resolvers).registry.get? destination = none := by
                rw [show (watched registry resolvers).registry = registry.noting from rfl,
                  Registry.get?_noting, hget]
                rfl
              rw [calls_of_unregistered hto hr hget, List.append_nil,
                dispatch_of_unregistered hto hr hwatched, dispatch_of_unregistered hto hr hget]
              rfl
          | some h =>
              rw [calls_of_registered hto hr hget, dispatch_noting_of_registered hto hr hget,
                List.append_assoc]

end Dispatcher

end Switchboard
