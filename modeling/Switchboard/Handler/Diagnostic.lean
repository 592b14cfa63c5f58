/-
# Switchboard.Handler.Diagnostic -- handlers in full, on one line

The form in which handlers are shown for diagnosis: records with the names of their fields,
texts between quotes, and two dots where a record hides something.
-/

import Switchboard.Handler.Method
import Switchboard.Json.Writer

namespace Switchboard

namespace Diagnostic

/-- A record with some of its fields; `more` tells whether there are others. -/
def record (name : String) (fields : List (String × String)) (more : Bool) : String :=
  let shown := fields.map fun f => f.1 ++ ": " ++ f.2
  name ++ " \x7b " ++ String.intercalate ", " (shown ++ if more then [".."] else []) ++ " \x7d"

/-- A list. -/
def list (items : List String) : String := "[" ++ String.intercalate ", " items ++ "]"

/-- Something that may be absent. -/
def optional : Option String → String
  | some s => "Some(" ++ s ++ ")"
  | none => "None"

/-- A text that may be absent. -/
def optionalText (s : Option String) : String := optional (s.map Text.quoted)

/-- A source. -/
def source : Source → String
  | .params => "Params"
  | .headers => "Headers"
  | .sessionId => "SessionId"
  | .requestId => "RequestId"
  | .subscribeMethod => "SubscribeMethod"
  | .failure => "Failure"
  | .cause => "Cause"
  | .handler => "Handler"
  | .custom n => "Custom(" ++ Text.quoted n ++ ")"

/-- A parameter. -/
def param (p : Param) : String :=
  record "ParamDescriptor"
    [("index", toString p.index), ("name", optionalText p.name),
      ("position", optional (p.position.map toString)), ("param_type", source p.source),
      ("type_name", Text.quoted p.typeName), ("required", if p.required then "true" else "false")]
    false

/-- What a handler returns. -/
def returnType (t : ReturnType) : String :=
  record "ReturnType"
    [("type_name", Text.quoted t.typeName), ("response_method", optionalText t.responseMethod),
      ("subscribe_method", optionalText t.subscribeMethod)]
    false

/-- A function with the given signature, of which the function itself is not shown. -/
def invocable (s : Signature) (returns : ReturnType) : String :=
  record "Invocable"
    [("name", Text.quoted s.name), ("params", list (s.params.map param)),
      ("return_type", returnType returns)]
    true

end Diagnostic

/-- A handler in full. -/
def MethodInfo.diagnostic (m : MethodInfo) : String :=
  Diagnostic.record "HandlerMethod"
    [("destination", Text.quoted m.destination), ("kind", m.kind.name),
      ("owner", Diagnostic.optional m.owner),
      ("invocable", Diagnostic.invocable m.signature m.returnType)]
    false

/-- An exception handler in full. -/
def ExceptionHandler.diagnostic {σ : Type} (h : ExceptionHandler σ) : String :=
  Diagnostic.record "ExceptionHandlerMethod"
    [("invocable", Diagnostic.invocable h.signature h.returnType),
      ("kinds", Diagnostic.list (h.kinds.map ErrorKind.name))]
    false

/-- An argument, with its value if that is JSON. -/
def Argument.diagnostic : Argument → String
  | json v => "Json(" ++ v.diagnostic ++ ")"
  | custom .. => "Custom(..)"
  | a => a.name

end Switchboard
