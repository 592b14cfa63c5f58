/-
# Switchboard.Message.Envelope -- between messages and JSON-RPC

Inbound, a payload is decoded as a request whose headers say what it calls. Outbound, results,
errors and notifications are put into messages whose headers say where they go. Replies take their
session and id from the request and nothing else; `fresh` becomes the id of the new message.
-/

import Switchboard.Handler.Signature
import Switchboard.Message.Basic

namespace Switchboard

namespace Envelope

/-- Where an inbound message goes: the method in its payload. -/
def destination? (m : Inbound) : Option String := m.payload.textAt? "method"

/-- Sets a header if there is a value for it. -/
def setIfSome {α : Type} (set : HeaderDraft → α → Except BusError HeaderDraft) (v : Option α)
    (d : HeaderDraft) : Except BusError HeaderDraft :=
  match v with
  | some v => set d v
  | none => .ok d

/-- Decodes an inbound message, for which a handler was or was not found, as a request. -/
def decodeRequest (m : Inbound) (handler : Option MethodInfo) (fresh : String) :
    Except BusError RequestMessage := do
  let request ←
    match Request.decode m.payload.toDoc with
    | .ok r => .ok r
    | .error e => .error (.invalidRequest e)
  let notifications := handler.bind fun h => h.kind.notifications?
  let type : MessageType := if notifications.isSome then .subscribe else .request
  let draft ← (HeaderDraft.ofHeaders m.headers).setMessageMethod request.method
  let draft ← draft.setMessageType type
  let draft ← setIfSome HeaderDraft.setSubscribeMethod notifications draft
  let draft ← setIfSome HeaderDraft.setCorrelationId request.id draft
  .ok ⟨request, draft.finish fresh⟩

/-- The headers of every reply to a request with an id. -/
def replyHeaders (request : RequestMessage) (sendMethod : String) (id : Id) :
    Except BusError HeaderDraft := do
  let draft ← HeaderDraft.new.setSendMethod sendMethod
  let draft ← draft.setMessageType .response
  let draft ← draft.setCorrelationId id
  setIfSome HeaderDraft.setSessionId request.headers.sessionId? draft

/-- The reply with a result, unless the request has no id. -/
def response (request : RequestMessage) (result : Json) (sendMethod : String)
    (subscribeMethod : Option String) (fresh : String) : Except BusError (Option Outbound) :=
  match request.payload.id with
  | none => .ok none
  | some id => do
    let draft ← replyHeaders request sendMethod id
    let draft ← setIfSome HeaderDraft.setSubscribeMethod subscribeMethod draft
    let reply := { Response.success id result with marked := request.payload.marked }
    .ok (some ⟨.response reply, draft.finish fresh⟩)

/-- The reply with an error, unless the request has no id. -/
def errorResponse (request : RequestMessage) (details : ErrorDetails) (fresh : String) :
    Except BusError (Option Outbound) :=
  match request.payload.id with
  | none => .ok none
  | some id => do
    let draft ← replyHeaders request request.payload.method id
    let reply := { Response.error id details with marked := request.payload.marked }
    .ok (some ⟨.response reply, draft.finish fresh⟩)

/-- The reply to a payload that is no request, and so has no id that could be used. -/
def invalidRequest (m : Inbound) (details : ErrorDetails) (fresh : String) :
    Except BusError Outbound := do
  let draft ← HeaderDraft.new.setMessageType .response
  let draft ← setIfSome HeaderDraft.setSessionId m.headers.sessionId? draft
  let marked := m.payload.textAt? "jsonrpc" = some "2.0"
  let reply := { Response.error .null details with marked }
  .ok ⟨.response reply, draft.finish fresh⟩

/-- A notification for a session. -/
def notification (sessionId method : String) (params : Option Json) (fresh : String) :
    Except BusError Outbound := do
  let draft ← HeaderDraft.new.setSessionId sessionId
  let draft ← draft.setSendMethod method
  let draft ← draft.setMessageType .notification
  .ok ⟨.notification { method, params }, draft.finish fresh⟩

end Envelope

end Switchboard
