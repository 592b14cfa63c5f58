/-
# Switchboard.Handler.Extractor -- values of parameters from arguments

An extractor makes a value of one type out of an argument; it knows from which source the argument
has to come. The parameters of a function are a chain of extractors (`Parameters`), which are
applied from left to right until one fails (`Parameters.read`).
-/

import Switchboard.Attempt
import Switchboard.Handler.Argument

namespace Switchboard

/-! ## One parameter -/

/-- How a value of one type is made out of an argument. -/
structure Extractor (α : Type) where
  /-- Where the argument comes from. -/
  source : Source
  /-- The name of the type. -/
  typeName : String
  /-- The value that an argument stands for. -/
  extract : Param → Argument → Attempt Failure α

namespace Extractor

variable {α : Type}

/-- What a function declares about the parameter. -/
def kind (x : Extractor α) : ParamKind := ⟨x.source, x.typeName⟩

/-- Takes the arguments that `pick` accepts as they are. -/
def picking (source : Source) (typeName : String) (pick : Argument → Option α) : Extractor α where
  source
  typeName
  extract p a :=
    match pick a with
    | some v => .value v
    | none => .failed (a.mismatch p)

/-- Raw params. -/
def json (typeName : String) : Extractor Json :=
  picking .params typeName fun | .json v => some v | _ => none

/-- Params of a type that is decoded from JSON. -/
def decoding (typeName : String) (decode : Json.Doc → Except Json.DecodeError α) :
    Extractor α where
  source := .params
  typeName
  extract p
    | .json v =>
      match decode v.toDoc with
      | .ok x => .value x
      | .error e => .failed (.ofBusError (.badParameter (p.name.getD "params") typeName e))
    | a => .failed (a.mismatch p)

/-- The headers. -/
def headers (typeName : String) : Extractor Headers :=
  picking .headers typeName fun | .headers h => some h | _ => none

/-- The session. -/
def sessionId (typeName : String) : Extractor (Option String) :=
  picking .sessionId typeName fun | .sessionId s => some s | _ => none

/-- The id of the request. -/
def requestId (typeName : String) : Extractor (Option Id) :=
  picking .requestId typeName fun | .requestId id => some id | _ => none

/-- The method of the notifications. -/
def subscribeMethod (typeName : String) : Extractor (Option String) :=
  picking .subscribeMethod typeName fun | .subscribeMethod m => some m | _ => none

/-- The failure that is dealt with. -/
def failure (typeName : String) : Extractor Failure :=
  picking .failure typeName fun | .failure f => some f | _ => none

/-- The cause of the failure that is dealt with. -/
def cause (typeName : String) : Extractor (Option Failure) :=
  picking .cause typeName fun | .cause f => some f | _ => none

/-- The handler that failed. -/
def handler (typeName : String) : Extractor MethodInfo :=
  picking .handler typeName fun | .handler m => some m | _ => none

end Extractor

/-! ## All parameters -/

/-- The parameters of a function; their values together are an `α`. -/
inductive Parameters : Type → Type 1 where
  /-- No parameters. -/
  | none : Parameters Unit
  /-- One parameter and those after it. -/
  | cons {α β : Type} (first : Extractor α) (rest : Parameters β) : Parameters (α × β)

namespace Parameters

/-- What a function declares about its parameters. -/
def kinds {α : Type} : Parameters α → List ParamKind
  | none => []
  | cons x rest => x.kind :: rest.kinds

/-- The failure of a call that lacks an argument. -/
def tooFew : Failure := .invalidState "Handler invoked with fewer arguments than parameters"

/-- The values of the parameters, made from left to right out of parameters with arguments. -/
def read {α : Type} : Parameters α → List (Param × Argument) → Attempt Failure α
  | none, _ => .value ()
  | cons x rest, (p, a) :: bound =>
    (x.extract p a).bind fun v => (rest.read bound).map fun vs => (v, vs)
  | cons _ _, [] => .failed tooFew

end Parameters

end Switchboard
