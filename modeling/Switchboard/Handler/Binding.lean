/-
# Switchboard.Handler.Binding -- which arguments a call gets

For each parameter of a handler the first resolver that supports it finds the argument. Arguments
that the caller provides come before all resolvers. All parameters are bound, from left to right,
before the first argument is made into a value; the first failure ends the binding.

`Function.invoke` binds and calls under one guard: whatever panics on the way is a failure.
-/

import Switchboard.Handler.Function

namespace Switchboard

/-- Finds the arguments of some parameters; `σ` is the state of the application. -/
structure ArgumentResolver (σ : Type) where
  /-- Whether it knows a parameter. -/
  supports : Param → Bool
  /-- The argument for a parameter. -/
  resolve : Param → RequestMessage → σ → Attempt BusError Argument × σ

namespace ArgumentResolver

variable {σ : Type}

/-- A resolver that neither panics nor changes anything. -/
def ofFunction (supports : Param → Bool) (find : Param → RequestMessage → Except BusError Argument) :
    ArgumentResolver σ where
  supports
  resolve p m s := (.ofExcept (find p m), s)

/-- The headers as a whole, or one that a parameter asks for. -/
def headerArgument (p : Param) (m : RequestMessage) : Argument :=
  match p.source with
  | .sessionId => .sessionId m.headers.sessionId?
  | .subscribeMethod => .subscribeMethod m.headers.subscribeMethod?
  | _ => .headers m.headers

/-- Finds headers. -/
def headers : ArgumentResolver σ :=
  ofFunction (fun p => p.source ∈ [.headers, .sessionId, .subscribeMethod]) fun p m =>
    .ok (headerArgument p m)

/-- Finds the id of the request. -/
def requestId : ArgumentResolver σ :=
  ofFunction (fun p => p.source = .requestId) fun _ m => .ok (.requestId m.payload.id)

/-- The part of the params that a parameter with a name gets. -/
def member? (p : Param) (name : String) : Option Json → Option Json
  | some (.object fields) => Entries.find? name fields
  | some (.array items) => p.position.bind fun i => items[i]?
  | _ => none

/-- The params as a whole for a parameter without a name, else the part of that name or position;
what is absent is `null` for an optional parameter. -/
def paramsArgument (p : Param) (m : RequestMessage) : Except BusError Argument :=
  match p.name with
  | none => .ok (.json (m.payload.params.getD .null))
  | some n =>
    match member? p n m.payload.params with
    | some v => .ok (.json v)
    | none => if p.required then .error (.missingParameter n) else .ok (.json .null)

/-- Finds the params. -/
def params : ArgumentResolver σ := ofFunction (fun p => p.source = .params) paramsArgument

/-- The resolvers that are always there. -/
def standard : List (ArgumentResolver σ) := [headers, requestId, params]

/-- Whether any of some resolvers supports a parameter. -/
def supported (rs : List (ArgumentResolver σ)) (p : Param) : Bool := rs.any fun r => r.supports p

/-- Finds the argument for a parameter: the first resolver that supports it is asked, and no
other. -/
def bind (rs : List (ArgumentResolver σ)) (m : RequestMessage) (p : Param) (s : σ) :
    Attempt BusError Argument × σ :=
  match rs.find? fun r => r.supports p with
  | some r => r.resolve p m s
  | none => (.failed (.unsupportedParameter p.index p.typeName), s)

/-- Finds the argument for a parameter among those provided, or else by the resolvers. -/
def bindWith (rs : List (ArgumentResolver σ)) (provided : List Argument) (m : RequestMessage)
    (p : Param) (s : σ) : Attempt BusError Argument × σ :=
  match provided.find? fun a => a.suits p.source with
  | some a => (.value a, s)
  | none => bind rs m p s

/-- Finds the arguments for all parameters, up to the first failure. -/
def bindAll (rs : List (ArgumentResolver σ)) (provided : List Argument) (m : RequestMessage) :
    List Param → σ → Attempt BusError (List Argument) × σ
  | [], s => (.value [], s)
  | p :: ps, s =>
    match bindWith rs provided m p s with
    | (.value a, s) =>
      let (rest, s) := bindAll rs provided m ps s
      (rest.map fun as => a :: as, s)
    | (.failed e, s) => (.failed e, s)
    | (.panicked q, s) => (.panicked q, s)

end ArgumentResolver

/-- Binds the parameters of a function and calls it. -/
def Function.invoke {σ : Type} (f : Function σ) (params : List Param)
    (rs : List (ArgumentResolver σ)) (provided : List Argument) (m : RequestMessage) (s : σ) :
    Except Failure Json × σ :=
  match ArgumentResolver.bindAll rs provided m params s with
  | (.value arguments, s) =>
    let (result, s) := f.call params arguments s
    (result.guarded, s)
  | (.failed e, s) => (.error (.ofBusError e), s)
  | (.panicked p, s) => (.error (.ofPanic p), s)

end Switchboard
