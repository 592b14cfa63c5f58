/-
# Switchboard.Handler.Signature -- what is known about a handler

A signature describes a function; a `MethodInfo` adds where the function stands: the destination
it answers, the group that declares it and whether it accepts subscriptions. Both are plain data,
without the function itself, so they can be compared and handed to exception handlers.
-/

import Switchboard.Handler.Param

namespace Switchboard

/-- What is known about a function. -/
structure Signature where
  /-- The name that it goes by. -/
  name : String
  /-- The identity of the function itself, whatever name it goes by. -/
  functionId : String
  /-- Its parameters. -/
  params : List Param
  /-- The name of the type that it returns. -/
  returnTypeName : String
  /-- The method that its responses are sent under, if not the one of the request. -/
  responseMethod : Option String := none
deriving DecidableEq, Repr

/-- What a handler is there for. -/
inductive HandlerKind where
  /-- It answers requests. -/
  | request
  /-- It accepts subscriptions, which then receive notifications of the given method. -/
  | subscribe (notifications : String)
deriving DecidableEq, Repr

namespace HandlerKind

/-- The name of a kind. -/
def name : HandlerKind → String
  | request => "Request"
  | subscribe _ => "Subscribe"

/-- The method of the notifications, if the handler accepts subscriptions. -/
def notifications? : HandlerKind → Option String
  | request => none
  | subscribe m => some m

end HandlerKind

/-- What is known about a handler. -/
structure MethodInfo where
  /-- What is known about its function. -/
  signature : Signature
  /-- What it is there for. -/
  kind : HandlerKind
  /-- The destination that it was declared with. -/
  declared : String
  /-- The destination that it was registered under. -/
  mapped : Option String := none
  /-- The name of the type that declares it, once it belongs to a group. -/
  owner : Option String := none
deriving DecidableEq, Repr

namespace MethodInfo

/-- The name that the handler goes by. -/
def name (m : MethodInfo) : String := m.signature.name

/-- The destination that the handler answers. -/
def destination (m : MethodInfo) : String := m.mapped.getD m.declared

/-- What the handler returns. -/
def returnType (m : MethodInfo) : ReturnType :=
  ⟨m.signature.returnTypeName, m.signature.responseMethod, m.kind.notifications?⟩

/-- Whether two handlers are one and the same, registered twice, and not rivals for a
destination. -/
def isSame (m n : MethodInfo) : Bool :=
  m.owner = n.owner && m.kind = n.kind && m.signature.functionId = n.signature.functionId &&
    m.signature.params = n.signature.params && m.returnType = n.returnType

theorem isSame_iff {m n : MethodInfo} : m.isSame n = true ↔ m.owner = n.owner ∧ m.kind = n.kind ∧
    m.signature.functionId = n.signature.functionId ∧
    m.signature.params = n.signature.params ∧ m.returnType = n.returnType := by
  simp [isSame, and_assoc]

@[simp] theorem isSame_refl (m : MethodInfo) : m.isSame m = true :=
  isSame_iff.2 ⟨rfl, rfl, rfl, rfl, rfl⟩

theorem isSame_symm {m n : MethodInfo} (h : m.isSame n = true) : n.isSame m = true := by
  obtain ⟨howner, hkind, hfunction, hparams, hreturn⟩ := isSame_iff.1 h
  exact isSame_iff.2 ⟨howner.symm, hkind.symm, hfunction.symm, hparams.symm, hreturn.symm⟩

theorem isSame_trans {l m n : MethodInfo} (h : l.isSame m = true) (h' : m.isSame n = true) :
    l.isSame n = true := by
  obtain ⟨howner, hkind, hfunction, hparams, hreturn⟩ := isSame_iff.1 h
  obtain ⟨howner', hkind', hfunction', hparams', hreturn'⟩ := isSame_iff.1 h'
  exact isSame_iff.2 ⟨howner.trans howner', hkind.trans hkind', hfunction.trans hfunction',
    hparams.trans hparams', hreturn.trans hreturn'⟩

/-- The handler in few words: its owner and its name. -/
def label (m : MethodInfo) : String :=
  match m.owner with
  | some o => o ++ "::" ++ m.name
  | none => m.name

end MethodInfo

end Switchboard
