/-
# Switchboard.Message.Headers -- the headers of a message

Headers live twice. While a message is put together they are a `HeaderDraft`, which can be changed
until it is frozen; the finished message has `Headers`, which nothing changes any more. Every
finished set has a message id: finishing adds one unless the draft has one, and a draft made from
finished headers leaves theirs out.
-/

import Switchboard.Failure.BusError
import Switchboard.Rpc.Id

namespace Switchboard

/-! ## Keys and types of messages -/

namespace HeaderKey

/-- The session that a message belongs to. -/
def sessionId : String := "sessionId"

/-- The method of the notifications that a subscription brings. -/
def subscribeMethod : String := "subscribeMethodName"

/-- The method that an inbound message calls. -/
def messageMethod : String := "messageMethod"

/-- The method that an outbound message is sent under. -/
def sendMethod : String := "sendMessageMethod"

/-- The type of a message. -/
def messageType : String := "messageType"

/-- The id of the request that a message belongs to. -/
def correlationId : String := "correlationId"

/-- The identity of the message itself. -/
def messageId : String := "messageId"

end HeaderKey

/-- What a message is for. -/
inductive MessageType where
  /-- A call of a method. -/
  | request
  /-- A call of a method that starts a subscription. -/
  | subscribe
  /-- The answer to a call. -/
  | response
  /-- A message that nobody asked for. -/
  | notification
deriving DecidableEq, Repr

namespace MessageType

/-- The word for a type in headers. -/
def word : MessageType → String
  | request => "REQUEST"
  | subscribe => "SUBSCRIBE"
  | response => "RESPONSE"
  | notification => "NOTIFICATION"

/-- The name of a type. -/
def name : MessageType → String
  | request => "Request"
  | subscribe => "Subscribe"
  | response => "Response"
  | notification => "Notification"

/-- All types. -/
def all : List MessageType := [request, subscribe, response, notification]

/-- The type with a given word. -/
def ofWord? (w : String) : Option MessageType := all.find? fun t => t.word = w

/-- The type with a given word, or the error that names all words. -/
def ofWord (w : String) : Except Json.DecodeError MessageType :=
  match ofWord? w with
  | some t => .ok t
  | none => .error (.unknownWord w (all.map word))

/-- Decodes a type: its word, or an object whose one field is named by it and is `null`. In a text
the word counts before what follows it; a value is first looked at as a whole. -/
def decode (d : Json.Doc) : Except Json.DecodeError MessageType :=
  let unit (d : Json.Doc) : Except Json.DecodeError Unit :=
    match d with
    | .null => .ok ()
    | d => .error (d.mismatch "unit")
  match d with
  | .string w => ofWord w
  | .object [(w, v)] .counted => do
    let t ← ofWord w
    unit v
    .ok t
  | .object _ .counted => .error (.wrongValue .object "map with a single key")
  | .object ((w, v) :: rest) close => do
    let t ← ofWord w
    unit v
    match rest, close with
    | [], .closed => .ok t
    | [], .cut _ e _ =>
      .error (.unreadable (if e.fault.isEnd then e else ⟨.noValue, e.left⟩))
    | _, _ => .error (.unreadable ⟨.noValue, 0⟩)
  | .object [] close =>
    .error (match close with
      | .cut _ e _ => .unreadable e
      | _ => .unreadable ⟨.noValue, 0⟩)
  | d => .error (d.mismatch "string or map")

/-- Decodes a type from a text, in which only a word or an object can stand. -/
def decodeText (d : Json.Doc) : Except Json.DecodeError MessageType :=
  match d with
  | .string _ | .object .. | .faulty .. => decode d
  | _ => .error (.unreadable ⟨.noValue, 0⟩)

end MessageType

/-! ## Generated ids -/

/-- The text of the `n`-th generated message id: thirty-two hexadecimal digits in five groups, of
version seven. -/
def generatedId (n : Nat) : String :=
  "00000000-0000-7000-8000-" ++ Text.hexPadded 12 (n % Nat.pow 2 48)

/-- Whether a text has the form of a generated id. -/
def isGeneratedId (s : String) : Bool :=
  let isHex (c : Char) : Bool := c.isDigit || ('a' ≤ c && c ≤ 'f')
  match s.splitOn "-" with
  | [a, b, c, d, e] =>
    a.length = 8 && b.length = 4 && c.length = 4 && d.length = 4 && e.length = 12 &&
      [a, b, c, d, e].all (fun g => g.toList.all isHex) && c.toList.head? = some '7'
  | _ => false

/-! ## Finished headers -/

/-- The headers of a finished message. -/
structure Headers where
  /-- The values by key. -/
  fields : Dict Json
deriving DecidableEq

namespace Headers

/-- No headers at all, not even an id. -/
def empty : Headers := ⟨∅⟩

/-- The value of a header. -/
def get? (h : Headers) (key : String) : Option Json := h.fields.find? key

/-- The value of a header, if it is a text. -/
def text? (h : Headers) (key : String) : Option String := (h.get? key).bind Json.text?

/-- The session. -/
def sessionId? (h : Headers) : Option String := h.text? HeaderKey.sessionId

/-- The method of the notifications. -/
def subscribeMethod? (h : Headers) : Option String := h.text? HeaderKey.subscribeMethod

/-- The method that is called. -/
def messageMethod? (h : Headers) : Option String := h.text? HeaderKey.messageMethod

/-- The method that the message is sent under. -/
def sendMethod? (h : Headers) : Option String := h.text? HeaderKey.sendMethod

/-- The type of the message. -/
def messageType? (h : Headers) : Option MessageType :=
  (h.text? HeaderKey.messageType).bind MessageType.ofWord?

/-- The id of the request. -/
def correlationId? (h : Headers) : Option Id := (h.get? HeaderKey.correlationId).bind Id.ofJson?

/-- The identity of the message. -/
def messageId? (h : Headers) : Option String := h.text? HeaderKey.messageId

/-- The JSON value. -/
def toJson (h : Headers) : Json := .ofDict h.fields

/-- The JSON value as it is shown to readers, who need not know a generated id. -/
def shown (h : Headers) : Json :=
  match h.messageId? with
  | some id =>
    if isGeneratedId id then .ofDict (h.fields.insert HeaderKey.messageId (.string "<uuid7>"))
    else h.toJson
  | none => h.toJson

end Headers

/-! ## Drafts -/

/-- Headers that are being put together. -/
structure HeaderDraft where
  /-- The values by key. -/
  fields : Dict Json := ∅
  /-- Whether the draft may no longer be changed. -/
  frozen : Bool := false
deriving DecidableEq

namespace HeaderDraft

/-- An empty draft. -/
def new : HeaderDraft := {}

/-- A draft of finished headers, without their id. -/
def ofHeaders (h : Headers) : HeaderDraft := { fields := h.fields.erase HeaderKey.messageId }

/-- A change of the fields by way of `key`, if the draft may still be changed. -/
def change (d : HeaderDraft) (key : String) (f : Dict Json → Dict Json) :
    Except BusError HeaderDraft :=
  if d.frozen then .error (.frozenHeaders key) else .ok { d with fields := f d.fields }

/-- Sets a header. -/
def put (d : HeaderDraft) (key : String) (value : Json) : Except BusError HeaderDraft :=
  d.change key fun fs => fs.insert key value

/-- Removes a header and tells its value. -/
def remove (d : HeaderDraft) (key : String) : Except BusError (Option Json × HeaderDraft) :=
  (d.change key fun fs => fs.erase key).map fun e => (d.fields.find? key, e)

/-- The value of a header. -/
def get? (d : HeaderDraft) (key : String) : Option Json := d.fields.find? key

/-- Sets the session. -/
def setSessionId (d : HeaderDraft) (s : String) : Except BusError HeaderDraft :=
  d.put HeaderKey.sessionId (.string s)

/-- Sets the method of the notifications. -/
def setSubscribeMethod (d : HeaderDraft) (m : String) : Except BusError HeaderDraft :=
  d.put HeaderKey.subscribeMethod (.string m)

/-- Sets the method that is called. -/
def setMessageMethod (d : HeaderDraft) (m : String) : Except BusError HeaderDraft :=
  d.put HeaderKey.messageMethod (.string m)

/-- Sets the method that the message is sent under. -/
def setSendMethod (d : HeaderDraft) (m : String) : Except BusError HeaderDraft :=
  d.put HeaderKey.sendMethod (.string m)

/-- Sets the type of the message. -/
def setMessageType (d : HeaderDraft) (t : MessageType) : Except BusError HeaderDraft :=
  d.put HeaderKey.messageType (.string t.word)

/-- Sets the id of the request. -/
def setCorrelationId (d : HeaderDraft) (id : Id) : Except BusError HeaderDraft :=
  d.put HeaderKey.correlationId id.toJson

/-- The session. -/
def sessionId? (d : HeaderDraft) : Option String := (d.get? HeaderKey.sessionId).bind Json.text?

/-- The method that is called. -/
def messageMethod? (d : HeaderDraft) : Option String :=
  (d.get? HeaderKey.messageMethod).bind Json.text?

/-- Forbids every later change. -/
def freeze (d : HeaderDraft) : HeaderDraft := { d with frozen := true }

/-- The finished headers; `fresh` becomes the message id unless the draft has one. -/
def finish (d : HeaderDraft) (fresh : String) : Headers :=
  ⟨d.fields.insertNew HeaderKey.messageId (.string fresh)⟩

/-! ## What a draft holds afterwards -/

/-- A frozen draft refuses every change and names the header that was to be changed. -/
theorem put_of_frozen {d : HeaderDraft} (h : d.frozen = true) (key : String) (v : Json) :
    d.put key v = .error (.frozenHeaders key) := by
  simp [put, change, h]

theorem put_of_not_frozen {d : HeaderDraft} (h : d.frozen = false) (key : String) (v : Json) :
    d.put key v = .ok { d with fields := d.fields.insert key v } := by
  simp [put, change, h]

theorem get?_ofHeaders (h : Headers) (j : String) :
    (ofHeaders h).get? j = if j = HeaderKey.messageId then none else h.get? j := by
  simp [ofHeaders, get?, Headers.get?]

/-- Finishing adds nothing but a message id, and that only where there is none. -/
theorem get?_finish (d : HeaderDraft) (fresh j : String) :
    (d.finish fresh).get? j =
      if j = HeaderKey.messageId then some ((d.get? HeaderKey.messageId).getD (.string fresh))
      else d.get? j := by
  simp [finish, get?, Headers.get?]

end HeaderDraft

end Switchboard
