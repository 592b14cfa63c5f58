/-
# Switchboard.Failure.Basic -- failures of handlers

A failure is an error with the chain of its causes, each a `Link` with a kind, a message and
perhaps a code and data for the error response. Errors from elsewhere become failures here: the
machinery's own (`ofBusError`), plain chains of messages (`ofMessages`) and reports, which wrap an
error in contexts and let a failure inside come out as it was (`ofReport`).
-/

import Switchboard.Failure.BusError
import Switchboard.Failure.Kind
import Switchboard.Rpc.ErrorDetails

namespace Switchboard

/-! ## Failures -/

/-- One error in a chain of causes. -/
structure Link where
  /-- The kind of the error. -/
  kind : ErrorKind
  /-- What happened. -/
  message : String
  /-- The code that an error response is to have. -/
  code : Option ErrorCode := none
  /-- The data that an error response is to have. -/
  data : Option Json := none
deriving DecidableEq

/-- An error and what caused it. -/
structure Failure where
  /-- The error itself. -/
  head : Link
  /-- Its cause, the cause of that, and so on. -/
  causes : List Link := []
deriving DecidableEq

namespace Link

/-- How an error is shown. -/
def display (l : Link) : String := l.kind.name ++ ": " ++ l.message

end Link

namespace Failure

/-- A failure without cause, code and data. -/
def new (kind : ErrorKind) (message : String) : Failure := ⟨⟨kind, message, none, none⟩, []⟩

/-- A failure of the kind `runtime`. -/
def runtime (message : String) : Failure := new .runtime message

instance : Inhabited Failure := ⟨runtime ""⟩

/-- A failure of the kind `invalidArgument`. -/
def invalidArgument (message : String) : Failure := new .invalidArgument message

/-- A failure of the kind `invalidState`. -/
def invalidState (message : String) : Failure := new .invalidState message

/-- The kind of a failure. -/
def kind (f : Failure) : ErrorKind := f.head.kind

/-- The message of a failure. -/
def message (f : Failure) : String := f.head.message

/-- The error and all its causes. -/
def chain (f : Failure) : List Link := f.head :: f.causes

/-- The direct cause. -/
def cause? (f : Failure) : Option Failure :=
  match f.causes with
  | [] => none
  | l :: ls => some ⟨l, ls⟩

/-- How a failure is shown. -/
def display (f : Failure) : String := f.head.display

/-- Gives a failure a code. -/
def withCode (f : Failure) (code : ErrorCode) : Failure :=
  { f with head := { f.head with code := some code } }

/-- Gives a failure data. -/
def withData (f : Failure) (data : Json) : Failure :=
  { f with head := { f.head with data := some data } }

/-- Gives a failure a cause, with the causes of that. -/
def withCause (f : Failure) (cause : Failure) : Failure := { f with causes := cause.chain }

/-- Whether a failure is of a kind or of one below it. -/
def isA (f : Failure) (kind : ErrorKind) : Bool := f.kind.isA kind

/-- The details of the error response: the failure's own code or else, if the request's parameters
are to blame, the code for that, else the one of an internal error. -/
def toDetails (f : Failure) : ErrorDetails :=
  let code := f.head.code.getD <|
    if f.isA .invalidParams || f.isA .unsupportedParameter then .invalidParams else .internalError
  ⟨code, f.message, f.head.data⟩

/-! ## Failures from other errors -/

/-- A chain of messages, outermost first, as errors of the kind `runtime`. -/
def ofMessages (message : String) (sources : List String) : Failure :=
  ⟨⟨.runtime, message, none, none⟩, sources.map fun m => ⟨.runtime, m, none, none⟩⟩

/-- The kind of failure that an error of the machinery is. -/
def kindOf : BusError → ErrorKind
  | .missingParameter .. | .badParameter .. => .invalidParams
  | .unsupportedParameter .. => .unsupportedParameter
  | .unsupportedReturnType .. => .unsupportedReturnType
  | .invalidRequest .. => .invalidArgument
  | _ => .runtime

/-- An error of the machinery as a failure, with its reason as cause. -/
def ofBusError (e : BusError) : Failure :=
  let f := ofMessages e.message e.reason?.toList
  { f with head := { f.head with kind := kindOf e } }

/-- A text that is no JSON document of the wanted form, as a failure. -/
def ofDecodeMessage (message : String) : Failure := invalidArgument message

end Failure

/-! ## Reports -/

/-- What an error is wrapped in. -/
inductive Context where
  /-- A message. -/
  | text (message : String)
  /-- A failure. -/
  | failure (f : Failure)
deriving DecidableEq

/-- The error inside a report. -/
inductive Root where
  /-- A message and the messages of its sources. -/
  | messages (message : String) (sources : List String)
  /-- A failure. -/
  | failure (f : Failure)
deriving DecidableEq

/-- An error wrapped in contexts, outermost first. -/
structure Report where
  /-- What the error is wrapped in. -/
  contexts : List Context := []
  /-- The error. -/
  root : Root
deriving DecidableEq

namespace Context

/-- How a context is shown. -/
def display : Context → String
  | text m => m
  | failure f => f.display

/-- The failure, if the context is one. -/
def failure? : Context → Option Failure
  | failure f => some f
  | text _ => none

end Context

namespace Root

/-- How the error inside is shown. -/
def display : Root → String
  | messages m _ => m
  | failure f => f.display

/-- How the sources of the error inside are shown. -/
def sources : Root → List String
  | messages _ ms => ms
  | failure f => f.causes.map Link.display

/-- The failure, if the error inside is one. -/
def failure? : Root → Option Failure
  | failure f => some f
  | messages .. => none

end Root

namespace Report

/-- Wraps a report in one more context. -/
def wrap (r : Report) (c : Context) : Report := { r with contexts := c :: r.contexts }

/-- The outermost failure of a report. -/
def failure? (r : Report) : Option Failure :=
  (r.contexts.findSome? Context.failure?).or r.root.failure?

/-- The messages of a report, outermost first. -/
def messages (r : Report) : List String :=
  r.contexts.map Context.display ++ r.root.display :: r.root.sources

end Report

/-- A report as a failure: the outermost failure inside it as it is, or else its messages. -/
def Failure.ofReport (r : Report) : Failure :=
  match r.failure? with
  | some f => f
  | none =>
    match r.messages with
    | m :: ms => .ofMessages m ms
    | [] => .runtime "unknown error"

end Switchboard
