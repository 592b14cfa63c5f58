/-
# Switchboard.Handler.Function -- functions that handle requests

A function takes the values of its parameters and the state of the application, and gives what it
has to return together with the state afterwards. It may fail or panic, and what it returns may
turn out to have no JSON form.
-/

import Switchboard.Handler.Extractor

namespace Switchboard

/-- The JSON form of a value, or why it has none. -/
abbrev Encoded := Except String Json

/-- A function that handles requests; `σ` is the state of the application. -/
structure Function (σ : Type) where
  /-- Its identity, which no other function has. -/
  id : String
  /-- Its own name. -/
  name : String
  /-- The values that it takes. -/
  {Args : Type}
  /-- Its parameters. -/
  takes : Parameters Args
  /-- The name of the type that it returns. -/
  returns : String
  /-- What it does. -/
  run : Args → σ → Attempt Failure Encoded × σ

namespace Function

variable {σ : Type}

/-- A value of a type as the JSON that it is returned as. -/
def encode (typeName : String) : Encoded → Attempt Failure Json
  | .ok v => .value v
  | .error reason => .failed (.ofBusError (.badResult typeName reason))

/-- Calls a function: makes the values of its parameters out of arguments and, if that succeeds,
runs it. Surplus arguments do not matter. -/
def call (f : Function σ) (params : List Param) (arguments : List Argument) (s : σ) :
    Attempt Failure Json × σ :=
  match f.takes.read (params.zip arguments) with
  | .value args =>
    let (result, s) := f.run args s
    (result.bind (encode f.returns), s)
  | .failed e => (.failed e, s)
  | .panicked p => (.panicked p, s)

/-- The signature of a function as it stands. -/
def signature (f : Function σ) : Signature where
  name := f.name
  functionId := f.id
  params := Param.describe f.takes.kinds
  returnTypeName := f.returns

end Function

namespace Signature

/-- A signature belongs to a function: it has parameters of just the kinds that the function
declares. -/
def Fits {σ : Type} (s : Signature) (f : Function σ) : Prop :=
  s.params.map Param.kind = f.takes.kinds

/-- A function fits its own signature. -/
theorem fits_signature {σ : Type} (f : Function σ) : f.signature.Fits f :=
  Param.map_kind_describe _

end Signature

end Switchboard
