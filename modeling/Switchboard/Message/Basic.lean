/-
# Switchboard.Message.Basic -- messages

A message is a payload with headers. Inbound messages carry raw JSON, decoded ones a `Request`,
outbound ones an `RpcMessage`.
-/

import Switchboard.Message.Headers
import Switchboard.Rpc.Message

namespace Switchboard

/-- A payload and what is known about it. -/
structure Message (α : Type) where
  /-- What is sent. -/
  payload : α
  /-- What is known about it. -/
  headers : Headers
deriving DecidableEq

namespace Message

variable {α β : Type}

/-- A message of which only the identity is known. -/
def ofPayload (payload : α) (fresh : String) : Message α := ⟨payload, HeaderDraft.new.finish fresh⟩

/-- Changes the payload and keeps the headers. -/
def map (f : α → β) (m : Message α) : Message β := ⟨f m.payload, m.headers⟩

end Message

/-- A message as it comes in. -/
abbrev Inbound := Message Json

/-- A message that was decoded as a request. -/
abbrev RequestMessage := Message Request

/-- A message as it goes out. -/
abbrev Outbound := Message RpcMessage

end Switchboard
