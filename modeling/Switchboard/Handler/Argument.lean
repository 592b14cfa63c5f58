/-
# Switchboard.Handler.Argument -- what parameters are bound to

An argument is found for a parameter by its source, before it is made into a value of the
parameter's type.
-/

import Switchboard.Failure.Basic
import Switchboard.Handler.Signature
import Switchboard.Message.Basic

namespace Switchboard

/-- What a parameter is bound to. -/
inductive Argument where
  /-- The params of the request or a part of them. -/
  | json (v : Json)
  /-- Headers. -/
  | headers (h : Headers)
  /-- The session, if there is one. -/
  | sessionId (s : Option String)
  /-- The method of the notifications, if there is one. -/
  | subscribeMethod (m : Option String)
  /-- The id of the request, if it has one. -/
  | requestId (id : Option Id)
  /-- A failure. -/
  | failure (f : Failure)
  /-- The cause of a failure, if it has one. -/
  | cause (f : Option Failure)
  /-- A handler. -/
  | handler (m : MethodInfo)
  /-- Something that the application supplies: what it is, and its value. -/
  | custom (typeName : String) (value : Json)
deriving DecidableEq

namespace Argument

/-- The name of the shape of an argument. -/
def name : Argument → String
  | json _ => "Json"
  | headers _ => "Headers"
  | sessionId _ => "SessionId"
  | subscribeMethod _ => "SubscribeMethod"
  | requestId _ => "RequestId"
  | failure _ => "Failure"
  | cause _ => "Cause"
  | handler _ => "Handler"
  | custom .. => "Custom"

/-- Whether an argument can be bound to a parameter with the given source. -/
def suits : Argument → Source → Bool
  | json _, .params => true
  | headers _, .headers => true
  | sessionId _, .sessionId => true
  | subscribeMethod _, .subscribeMethod => true
  | requestId _, .requestId => true
  | failure _, .failure => true
  | cause _, .cause => true
  | handler _, .handler => true
  | custom .., .custom _ => true
  | _, _ => false

/-- The failure of binding an argument to a parameter that it does not suit. -/
def mismatch (a : Argument) (p : Param) : Failure :=
  .invalidState ("Resolved a " ++ a.name ++ " argument for parameter " ++ toString p.index ++
    " of type " ++ p.typeName)

end Argument

end Switchboard
