/-
# Switchboard.Attempt -- what becomes of code that may fail or panic

Code of an application ends in one of three ways: with a value, with an error of its own or with a
panic, which carries a text or something that is none. `Attempt.guarded` is the guard that turns a
panic into a failure like any other.
-/

import Switchboard.Failure.Basic

namespace Switchboard

/-- What a panic carries: a text, or something else. -/
structure Panic where
  /-- The text. -/
  payload : Option String
deriving DecidableEq, Repr

namespace Panic

/-- A panic with a text. -/
def text (message : String) : Panic := ⟨some message⟩

/-- The wording of a panic. -/
def message (p : Panic) : String := p.payload.getD "Panic with a payload that is not a string"

end Panic

/-- A panic as a failure. -/
def Failure.ofPanic (p : Panic) : Failure := .new .panic p.message

/-- How code ended. -/
inductive Attempt (ε α : Type) where
  /-- It gave a value. -/
  | value (v : α)
  /-- It gave an error. -/
  | failed (e : ε)
  /-- It panicked. -/
  | panicked (p : Panic)
deriving DecidableEq

namespace Attempt

variable {ε δ α β : Type}

/-- Changes the value. -/
def map (f : α → β) : Attempt ε α → Attempt ε β
  | value v => value (f v)
  | failed e => failed e
  | panicked p => panicked p

/-- Changes the error. -/
def mapError (f : ε → δ) : Attempt ε α → Attempt δ α
  | value v => value v
  | failed e => failed (f e)
  | panicked p => panicked p

/-- Goes on with the value. -/
def bind (a : Attempt ε α) (f : α → Attempt ε β) : Attempt ε β :=
  match a with
  | value v => f v
  | failed e => failed e
  | panicked p => panicked p

/-- What gives a value or an error and never panics. -/
def ofExcept : Except ε α → Attempt ε α
  | .ok v => value v
  | .error e => failed e

/-- A panic becomes a failure. -/
def guarded : Attempt Failure α → Except Failure α
  | value v => .ok v
  | failed e => .error e
  | panicked p => .error (.ofPanic p)

end Attempt

end Switchboard
