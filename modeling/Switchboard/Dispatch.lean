/-
# Switchboard.Dispatch -- from an inbound message to its answer

A dispatcher finds the handler for a message, binds its arguments, calls it and deals with what it
returns. A failure on the way goes to the exception handler that the handler's owner has for it,
once; if there is none, or that fails too, the answer is an error response made from the first
failure.

Every message ends in one of five outcomes, or with the panic of a return handler: only binding
and calling happen under a guard.
-/

import Switchboard.Handler.Binding
import Switchboard.Recovery.Cache
import Switchboard.Registry
import Switchboard.Reply

namespace Switchboard

/-- How the handling of a message ended. -/
inductive Outcome where
  /-- The message has no destination. -/
  | ignored
  /-- The handler ran and its value was dealt with. -/
  | responded
  /-- The handler failed and an exception handler dealt with that. -/
  | exceptionHandled
  /-- No handler answers the destination. -/
  | notFound
  /-- Something failed, and an error response was sent. -/
  | defaultError
deriving DecidableEq, Repr

namespace Outcome

/-- The name of an outcome. -/
def name : Outcome → String
  | ignored => "Ignored"
  | responded => "Responded"
  | exceptionHandled => "ExceptionHandled"
  | notFound => "NotFound"
  | defaultError => "DefaultError"

end Outcome

/-- What messages are dispatched by; `σ` is the state of the application. -/
structure Dispatcher (σ : Type) where
  /-- The handlers. -/
  registry : Registry σ
  /-- What finds arguments, in the order in which it is asked. -/
  argumentResolvers : List (ArgumentResolver σ)
  /-- What deals with returned values, in the order in which it is asked. -/
  returnHandlers : List (ReturnHandler σ)

namespace Dispatcher

variable {σ : Type}

/-- A dispatcher with argument resolvers and return handlers of the application: the former come
after the library's own, the latter between the one for subscriptions and the one for all other
values. -/
def new (registry : Registry σ) (argumentResolvers : List (ArgumentResolver σ))
    (returnHandlers : List (ReturnHandler σ)) : Dispatcher σ where
  registry
  argumentResolvers := ArgumentResolver.standard ++ argumentResolvers
  returnHandlers := [.subscribe] ++ returnHandlers ++ [.response]

/-- What a dispatcher works on and what it remembers. -/
structure State (σ : Type) where
  /-- What it works on. -/
  desk : Desk σ
  /-- What it knows about exception handlers. -/
  recovery : ResolverCache (ExceptionHandler σ) := .empty

/-- Works on the desk. -/
def State.onDesk {α : Type} (s : State σ) (f : Desk σ → α × Desk σ) : α × State σ :=
  let (a, desk) := f s.desk
  (a, { s with desk })

/-! ## Parts of the dispatch -/

/-- Sends the error response to a request. -/
def sendError (request : RequestMessage) (details : ErrorDetails) (d : Desk σ) : Desk σ :=
  let (id, d) := d.fresh
  match Envelope.errorResponse request details id with
  | .ok reply => d.sendIfSome reply
  | .error _ => d

/-- Sends the error response to a payload that is no request. -/
def sendInvalid (m : Inbound) (details : ErrorDetails) (d : Desk σ) : Desk σ :=
  let (id, d) := d.fresh
  match Envelope.invalidRequest m details id with
  | .ok reply => d.sendIfSome (some reply)
  | .error _ => d

/-- Calls a function for a request and deals with what it returns. -/
def run (x : Dispatcher σ) (f : Function σ) (params : List Param) (type : ReturnType)
    (provided : List Argument) (request : RequestMessage) (d : Desk σ) :
    Attempt Failure Unit × Desk σ :=
  match f.invoke params x.argumentResolvers provided request d.app with
  | (.ok value, app) =>
    let (result, d) :=
      ReturnHandler.handleBy x.returnHandlers value type request { d with app }
    (result.mapError .ofBusError, d)
  | (.error e, app) => (.failed e, { d with app })

/-- Answers a request with the error response for a failure. -/
def defaultError (request : RequestMessage) (e : Failure) (s : State σ) : Outcome × State σ :=
  (.defaultError, { s with desk := sendError request e.toDetails s.desk })

/-- The exception handler that an owner has for a failure. -/
def exceptionHandler? (x : Dispatcher σ) (owner : String) (e : Failure) (s : State σ) :
    Option (ExceptionHandler σ) × State σ :=
  let candidates := (x.registry.exceptionHandlersOf owner).map fun h => (h.kinds, h)
  let (h, recovery) := s.recovery.resolve owner (fun _ => .ofCandidates candidates) e
  (h, { s with recovery })

/-- What an exception handler is given beside what it finds in the request: the failure, its
cause and the handler that failed. -/
def provided (h : MethodInfo) (e : Failure) : List Argument :=
  [.failure e, .cause e.cause?, .handler h]

/-- Deals with the failure of a handler. -/
def recover (x : Dispatcher σ) (h : MethodInfo) (request : RequestMessage) (e : Failure)
    (s : State σ) : Except Panic Outcome × State σ :=
  let fallBack (s : State σ) : Except Panic Outcome × State σ :=
    let (outcome, s) := defaultError request e s
    (.ok outcome, s)
  match h.owner with
  | none => fallBack s
  | some owner =>
    match x.exceptionHandler? owner e s with
    | (none, s) => fallBack s
    | (some eh, s) =>
      match s.onDesk (x.run eh.function eh.signature.params eh.returnType (provided h e) request)
        with
      | (.value _, s) => (.ok .exceptionHandled, s)
      | (.failed _, s) => fallBack s
      | (.panicked p, s) => (.error p, s)

/-- Handles a request by its handler. -/
def handle (x : Dispatcher σ) (h : Method σ) (request : RequestMessage) (s : State σ) :
    Except Panic Outcome × State σ :=
  match s.onDesk (x.run h.function h.info.signature.params h.info.returnType [] request) with
  | (.value _, s) => (.ok .responded, s)
  | (.failed e, s) => x.recover h.info request e s
  | (.panicked p, s) => (.error p, s)

/-! ## The dispatch -/

/-- Dispatches a message that goes to a destination. -/
def dispatchTo (x : Dispatcher σ) (destination : String) (m : Inbound) (s : State σ) :
    Except Panic Outcome × State σ :=
  let handler := x.registry.get? destination
  let (id, desk) := s.desk.fresh
  let s := { s with desk }
  match Envelope.decodeRequest m (handler.map Method.info) id with
  | .error e =>
    (.ok .defaultError,
      { s with desk := sendInvalid m (.invalidRequest e.message none) s.desk })
  | .ok request =>
    match handler with
    | some h => x.handle h request s
    | none =>
      let details := ErrorDetails.methodNotFound ("Unknown method '" ++ destination ++ "'") none
      (.ok .notFound, { s with desk := sendError request details s.desk })

/-- Dispatches a message. -/
def dispatch (x : Dispatcher σ) (m : Inbound) (s : State σ) : Except Panic Outcome × State σ :=
  match Envelope.destination? m with
  | none => (.ok .ignored, s)
  | some destination => x.dispatchTo destination m s

end Dispatcher

end Switchboard
