/-
# Switchboard.Proofs.Bus.Conformity -- whatever the library sends conforms to what was received

Between the call that receives a payload and the dispatch of the message that it becomes lies a
run of the whole bus: the message is queued, waits for a permit and is delivered, while other
payloads come in, subscribers come and go and shutdowns begin. `received_of_delivery?` finds the
call for every message that is being delivered. So the dispatch knows session and payload of the
call and nothing else of the outside, and `dispatch?_conforms` says of every bus and every run
that the messages which the library sends conform to them.
-/

import Switchboard.Proofs.Bus.Traces
import Switchboard.Proofs.Dispatch.Provenance

namespace Switchboard

namespace Bus

variable {σ : Type} {config : BusConfig} {mapping : Mapping σ} {groups : List (Group σ)}
  {resolvers : List (ArgumentResolver σ)} {own : List (ReturnHandler σ)} {app : σ}
  {b₀ b b' : Bus σ} {es : List Event} {n : Nat}

/-- What holds when the dispatcher handles a message `m`, whereby the bus `b` becomes `b'`: the
message has the payload and the session of the call, and what the library sends conforms to
them. -/
structure Answered (own : List (ReturnHandler σ)) (session : String) (payload : Json) (m : Inbound)
    (b b' : Bus σ) : Prop where
  /-- The message carries the payload and the session, and the payload has no say in the latter. -/
  payload_eq : m.payload = payload
  session_eq : m.headers.sessionId? = some session
  /-- The library puts nothing but messages that conform into the outbox, and what else is there
  was put there by return handlers of the application. -/
  leads : Desk.Leads own (Dispatcher.Conforms b.dispatcher session m b.bench) b.bench.desk
    (b.dispatcher.dispatch m b.bench).2.desk
  /-- What is in the outbox is sent on the outbound channel, in order. -/
  outbound_eq : b'.outbound = (b.posted (b.dispatcher.dispatch m)).foldl
    (fun c msg => (c.send msg).2) b.outbound
  /-- If no return handler of the application sends anything, all of it conforms. -/
  conforms : (∀ h ∈ own, h.Silent) → ∀ msg ∈ b.posted (b.dispatcher.dispatch m),
    Dispatcher.Conforms b.dispatcher session m b.bench msg

/-- Whatever the library sends for a payload that was received conforms to it. -/
theorem dispatch?_conforms {outcome : Except Panic Outcome}
    (hbuild : build config mapping groups resolvers own app = .ok b₀)
    (hrun : b₀.run? es = some b) (hdispatch : b.dispatch? n = some (outcome, b')) :
    ∃ before session payload since c x, es = before ++ .receive session payload :: since ∧
      b₀.run? before = some c ∧ b.inbound.delivery? n = some x ∧
      x.message = c.arrival session payload ∧ Answered own session payload x.message b b' := by
  obtain ⟨x, inbound, hx, hbegin, _, rfl⟩ := dispatch?_eq_some hdispatch
  -- A delivery that begins now had not begun before, and so its message is still the one received.
  have hunbegun : x.begun = false := by
    obtain ⟨x', hx', hb, _⟩ := Channel.begin?_eq_some hbegin
    rw [hx] at hx'
    cases hx'
    exact hb
  obtain ⟨before, session, payload, since, c, hes, hc, hm⟩ :=
    received_of_delivery? hbuild hrun hx hunbegun
  have hsession : x.message.headers.sessionId? = some session := by
    rw [hm]
    exact sessionId?_arrival c session payload
  have hreturn : b.dispatcher.returnHandlers = [.subscribe] ++ own ++ [.response] := by
    obtain ⟨registry, _, rfl⟩ := build_eq_ok hbuild
    rw [dispatcher_run? hrun]
    rfl
  have hleads := Dispatcher.dispatch_leads (s := b.bench) hreturn hsession
  refine ⟨before, session, payload, since, c, x, hes, hc, hx, hm, ?_⟩
  refine { payload_eq := by rw [hm]; rfl, session_eq := hsession, leads := hleads
           outbound_eq := rfl, conforms := ?_ }
  intro hsilent msg hmsg
  -- The outbox was empty before the dispatch, so all that it holds now is what conforms.
  obtain ⟨ms, heq, hms⟩ := hleads.sent hsilent
  refine hms msg ?_
  have hposted : b.posted (b.dispatcher.dispatch x.message) =
      (b.bench.desk.outbox.sendAll ms).sent := congrArg Outbox.sent heq
  rw [hposted] at hmsg
  exact (Outbox.accepted_sublist _ ms).subset hmsg

/-- A handler of subscriptions, which acknowledges them with a greeting. -/
def greeter : Group Unit :=
  (Group.new "Greeter").withMethod (.subscribe "greet" "greetings"
    { id := "greet", name := "greet", takes := .none, returns := "String"
      run := fun _ s => (.value (.ok (.string "hello")), s) })

/-- A request that claims another session than that on which it comes in. -/
def claim : Json :=
  .object [("id", .integer 7), ("method", .string "greet"), ("sessionId", .string "other")]

/-- The request comes in and is about to be dispatched. -/
def claimed : List Event :=
  [.subscribe, .receive "mine" claim, .inbound (.take 1), .inbound (.lineUp 1),
    .inbound (.acquire 1), .inbound (.handOver 1)]

/-- The greeting conforms to the request. -/
theorem dispatch?_conforms_claimed :
    ∃ b₀ b b' outcome, build {} .standard [greeter] [] [] () = .ok b₀ ∧
      b₀.run? claimed = some b ∧ b.dispatch? 0 = some (outcome, b') ∧
      ∃ before session payload since c x,
        claimed = before ++ .receive session payload :: since ∧ b₀.run? before = some c ∧
        b.inbound.delivery? 0 = some x ∧ x.message = c.arrival session payload ∧
        Answered [] session payload x.message b b' := by
  obtain ⟨b₀, b, b', outcome, hbuild, hrun, hdispatch⟩ :
      ∃ b₀ b b' outcome, build {} .standard [greeter] [] [] () = .ok b₀ ∧
        b₀.run? claimed = some b ∧ b.dispatch? 0 = some (outcome, b') :=
    ⟨_, _, _, _, rfl, rfl, rfl⟩
  exact ⟨b₀, b, b', outcome, hbuild, hrun, hdispatch,
    dispatch?_conforms hbuild hrun hdispatch⟩

end Bus

end Switchboard
