/-
# Switchboard.Handler.Param -- parameters of handlers

A parameter has a source, which says what it is bound to, and the name of its type. Parameters
that are bound to the params of a request are counted by `position` and may be given names; a
named parameter is looked up by its name in an object and by its position in an array, an unnamed
one takes the params as a whole.
-/

namespace Switchboard

/-- What a parameter is bound to. -/
inductive Source where
  /-- The params of the request. -/
  | params
  /-- The headers of the request. -/
  | headers
  /-- The session of the request. -/
  | sessionId
  /-- The id of the request. -/
  | requestId
  /-- The method of the notifications that the request subscribes to. -/
  | subscribeMethod
  /-- The failure that an exception handler deals with. -/
  | failure
  /-- The cause of that failure. -/
  | cause
  /-- The handler that failed. -/
  | handler
  /-- Something that the application supplies. -/
  | custom (name : String)
deriving DecidableEq, Repr

/-- A parameter as its function declares it. -/
structure ParamKind where
  /-- What it is bound to. -/
  source : Source
  /-- The name of its type. -/
  typeName : String
deriving DecidableEq, Repr

/-- A parameter of a handler. -/
structure Param where
  /-- Its place among all parameters. -/
  index : Nat
  /-- The name by which it is looked up. -/
  name : Option String := none
  /-- Its place among the parameters that are bound to the params. -/
  position : Option Nat := none
  /-- What it is bound to. -/
  source : Source
  /-- The name of its type. -/
  typeName : String
  /-- Whether it must be given. -/
  required : Bool := true
deriving DecidableEq, Repr

namespace Param

/-- The parameter as its function declares it. -/
def kind (p : Param) : ParamKind := ⟨p.source, p.typeName⟩

/-- Parameters of the given kinds; the first has the given place and position. -/
def describeFrom (index position : Nat) : List ParamKind → List Param
  | [] => []
  | k :: ks =>
    if k.source = .params then
      { index, position := some position, source := k.source, typeName := k.typeName } ::
        describeFrom (index + 1) (position + 1) ks
    else
      { index, source := k.source, typeName := k.typeName } ::
        describeFrom (index + 1) position ks

/-- Parameters of the given kinds, all without names and all required. -/
def describe (kinds : List ParamKind) : List Param := describeFrom 0 0 kinds

/-- Names the parameters that are bound to the params, in order. Surplus names are dropped. -/
def giveNames : List Param → List String → List Param
  | [], _ => []
  | p :: ps, names =>
    if p.source = .params then
      match names with
      | [] => p :: ps
      | n :: names => { p with name := some n } :: giveNames ps names
    else p :: giveNames ps names

/-- Makes the parameters with the given names optional. -/
def makeOptional (names : List String) (ps : List Param) : List Param :=
  ps.map fun p =>
    match p.name with
    | some n => if n ∈ names then { p with required := false } else p
    | none => p

theorem map_kind_describeFrom (index position : Nat) (kinds : List ParamKind) :
    (describeFrom index position kinds).map kind = kinds := by
  induction kinds generalizing index position with
  | nil => rfl
  | cons k ks ih =>
    simp only [describeFrom]
    split <;> simp [ih, kind]

theorem map_kind_describe (kinds : List ParamKind) : (describe kinds).map kind = kinds :=
  map_kind_describeFrom 0 0 kinds

theorem map_kind_giveNames (ps : List Param) (names : List String) :
    (giveNames ps names).map kind = ps.map kind := by
  induction ps generalizing names with
  | nil => rfl
  | cons p ps ih =>
    simp only [giveNames]
    split
    · cases names with
      | nil => rfl
      | cons n names => simpa [kind] using ih names
    · simp [ih]

theorem map_kind_makeOptional (names : List String) (ps : List Param) :
    (makeOptional names ps).map kind = ps.map kind := by
  simp only [makeOptional, List.map_map, List.map_inj_left, Function.comp_apply]
  intro p _
  split
  · split <;> rfl
  · rfl

end Param

/-- What a handler returns and where that goes. -/
structure ReturnType where
  /-- The name of the type. -/
  typeName : String
  /-- The method that the response is sent under, if not the one of the request. -/
  responseMethod : Option String := none
  /-- The method of the notifications that follow, if the handler accepts subscriptions. -/
  subscribeMethod : Option String := none
deriving DecidableEq, Repr

end Switchboard
