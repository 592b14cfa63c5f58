/-
# Switchboard.Handler.Method -- handlers and the groups that declare them

A method is a function that answers a destination, an exception handler one that deals with
failures of the methods declared beside it. A group declares both in the name of one owner.
-/

import Switchboard.Handler.Function

namespace Switchboard

/-! ## Methods -/

/-- A function that answers a destination. -/
structure Method (σ : Type) where
  /-- What is known about it. -/
  info : MethodInfo
  /-- The function. -/
  function : Function σ
  /-- Its signature belongs to the function. -/
  fits : info.signature.Fits function

namespace Method

variable {σ : Type}

/-- A method that answers requests. -/
def request (destination : String) (f : Function σ) : Method σ where
  info := { signature := f.signature, kind := .request, declared := destination }
  function := f
  fits := Signature.fits_signature f

/-- A method that accepts subscriptions. -/
def subscribe (destination notifications : String) (f : Function σ) : Method σ where
  info := { signature := f.signature, kind := .subscribe notifications, declared := destination }
  function := f
  fits := Signature.fits_signature f

/-- Names the parameters that are bound to the params, in order. -/
def withParamNames (m : Method σ) (names : List String) : Method σ where
  info :=
    { m.info with
      signature := { m.info.signature with
        params := Param.giveNames m.info.signature.params names } }
  function := m.function
  fits := (Param.map_kind_giveNames _ _).trans m.fits

/-- Makes the parameters with the given names optional. -/
def withOptionalParams (m : Method σ) (names : List String) : Method σ where
  info :=
    { m.info with
      signature := { m.info.signature with
        params := Param.makeOptional names m.info.signature.params } }
  function := m.function
  fits := (Param.map_kind_makeOptional _ _).trans m.fits

/-- Sends the responses under a method of their own. -/
def withResponseMethod (m : Method σ) (method : String) : Method σ :=
  { m with info :=
    { m.info with signature := { m.info.signature with responseMethod := some method } } }

/-- Gives the method another name. -/
def withName (m : Method σ) (name : String) : Method σ :=
  { m with info := { m.info with signature := { m.info.signature with name } } }

/-- Puts the method into the group of an owner. -/
def withOwner (m : Method σ) (owner : String) : Method σ :=
  { m with info := { m.info with owner := some owner } }

/-- Registers the method under a destination. -/
def mappedTo (m : Method σ) (destination : String) : Method σ :=
  { m with info := { m.info with mapped := some destination } }

end Method

/-! ## Exception handlers -/

/-- A function that deals with failures. -/
structure ExceptionHandler (σ : Type) where
  /-- What is known about it. -/
  signature : Signature
  /-- The kinds of failures that it deals with, with all kinds below them. -/
  kinds : List ErrorKind
  /-- The function. -/
  function : Function σ
  /-- The signature belongs to the function. -/
  fits : signature.Fits function

namespace ExceptionHandler

variable {σ : Type}

/-- An exception handler for failures of the given kinds. -/
def forKinds (kinds : List ErrorKind) (f : Function σ) : ExceptionHandler σ :=
  ⟨f.signature, kinds, f, Signature.fits_signature f⟩

/-- An exception handler for all failures. -/
def new (f : Function σ) : ExceptionHandler σ := forKinds [.error] f

/-- Sends the responses under a method of their own. -/
def withResponseMethod (h : ExceptionHandler σ) (method : String) : ExceptionHandler σ :=
  { h with signature := { h.signature with responseMethod := some method } }

/-- Gives the exception handler another name. -/
def withName (h : ExceptionHandler σ) (name : String) : ExceptionHandler σ :=
  { h with signature := { h.signature with name } }

/-- The name that the exception handler goes by. -/
def name (h : ExceptionHandler σ) : String := h.signature.name

/-- What the exception handler returns. It never starts a subscription. -/
def returnType (h : ExceptionHandler σ) : ReturnType :=
  ⟨h.signature.returnTypeName, h.signature.responseMethod, none⟩

end ExceptionHandler

/-! ## Groups -/

/-- Methods and exception handlers that are declared together. -/
structure Group (σ : Type) where
  /-- The name of the type that declares them. -/
  owner : String
  /-- What the destinations of all methods start with. -/
  start : Option String := none
  /-- The methods. -/
  methods : List (Method σ) := []
  /-- The exception handlers; of two that fit equally well the earlier one is taken. -/
  exceptionHandlers : List (ExceptionHandler σ) := []
  /-- All methods belong to the owner. -/
  owned : ∀ m ∈ methods, m.info.owner = some owner := by simp

namespace Group

variable {σ : Type}

/-- A group without methods. -/
def new (owner : String) : Group σ := { owner }

/-- Lets the destinations of all methods start with a text. -/
def withStart (g : Group σ) (start : String) : Group σ := { g with start := some start }

/-- Adds a method. -/
def withMethod (g : Group σ) (m : Method σ) : Group σ where
  owner := g.owner
  start := g.start
  methods := g.methods ++ [m.withOwner g.owner]
  exceptionHandlers := g.exceptionHandlers
  owned := by
    intro n hn
    rcases List.mem_append.1 hn with hn | hn
    · exact g.owned n hn
    · rw [List.mem_singleton.1 hn]; rfl

/-- Adds an exception handler. -/
def withExceptionHandler (g : Group σ) (h : ExceptionHandler σ) : Group σ :=
  { g with exceptionHandlers := g.exceptionHandlers ++ [h] }

end Group

end Switchboard
