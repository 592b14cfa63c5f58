/-
# Switchboard.Proofs.Bus.Building -- when a bus can be built, and what it can do then

A bus is built of groups, of the settings of its two channels and of parts of the application. The
groups have to agree on who answers which destination, and each channel has to be able to have as
many permits as its settings ask for. A clash of the groups is an error; too many permits are a
panic, for nothing looks at the settings before (`Building`).

A bus that was built `Works`: it accepts payloads until it is shut down, at all times either channel
admits just as many deliveries as its settings say, and so many messages can indeed be handled at
the same time. The last of these is shown for the channels by themselves and then carried over, as
all that a channel can do by itself it can do as a part of a bus (`exists_run`).
-/

import Switchboard.Proofs.Bus.Shutdown
import Switchboard.Proofs.Channel.Capacity
import Switchboard.Proofs.Registry.Ambiguity
import Switchboard.Proofs.Subscriptions.Broadcast

namespace Switchboard

/-- There can be as many permits as the settings ask for, for both channels. -/
def BusConfig.Fits (config : BusConfig) : Prop :=
  max 1 config.inbound.maxConcurrency.toNat ≤ Channel.maxPermits ∧
    max 1 config.outbound.maxConcurrency.toNat ≤ Channel.maxPermits

namespace Bus

variable {σ : Type} {b d : Bus σ} {es : List Event}

/-! ## A channel as a part of a bus -/

/-- What happens in the inbound channel by itself can happen on the bus. -/
theorem exists_after_inbound {c : Channel Inbound} {f : Channel.Event Inbound}
    (hf : f.isInternal = true) (hc : b.inbound.after? f = some c) :
    ∃ e d, b.after? e = some d ∧ d.inbound = c := by
  cases f with
  | take id => exact ⟨.inbound (.take id), _, congrArg (Option.map _) hc, rfl⟩
  | lineUp id => exact ⟨.inbound (.lineUp id), _, congrArg (Option.map _) hc, rfl⟩
  | acquire id => exact ⟨.inbound (.acquire id), _, congrArg (Option.map _) hc, rfl⟩
  | handOver id => exact ⟨.inbound (.handOver id), _, congrArg (Option.map _) hc, rfl⟩
  | finish n ending => exact ⟨.inbound (.finish n ending), _, congrArg (Option.map _) hc, rfl⟩
  | leave id => exact ⟨.inbound (.leave id), _, congrArg (Option.map _) hc, rfl⟩
  | «begin» n =>
      -- On a bus it is the dispatcher that begins, and it does its work in the same step.
      have hbegin : b.inbound.begin? n = some c := hc
      obtain ⟨x, hx, _, _⟩ := Channel.begin?_eq_some hbegin
      refine ⟨.dispatch n, ({ b with inbound := c }.work (b.dispatcher.dispatch x.message)).2, ?_,
        rfl⟩
      simp only [after?, dispatch?, hx, hbegin]
      rfl
  | _ => cases hf

/-- What happens in the outbound channel by itself can happen on the bus. -/
theorem exists_after_outbound {c : Channel Outbound} {f : Channel.Event Outbound}
    (hf : f.isInternal = true) (hc : b.outbound.after? f = some c) :
    ∃ e d, b.after? e = some d ∧ d.outbound = c := by
  cases f with
  | take id => exact ⟨.outbound (.take id), _, congrArg (Option.map _) hc, rfl⟩
  | lineUp id => exact ⟨.outbound (.lineUp id), _, congrArg (Option.map _) hc, rfl⟩
  | acquire id => exact ⟨.outbound (.acquire id), _, congrArg (Option.map _) hc, rfl⟩
  | handOver id => exact ⟨.outbound (.handOver id), _, congrArg (Option.map _) hc, rfl⟩
  | finish n ending => exact ⟨.outbound (.finish n ending), _, congrArg (Option.map _) hc, rfl⟩
  | leave id => exact ⟨.outbound (.leave id), _, congrArg (Option.map _) hc, rfl⟩
  | «begin» n => exact ⟨.listen n, _, congrArg (Option.map _) hc, rfl⟩
  | _ => cases hf

/-- From steps to runs, for either channel. -/
theorem exists_run {μ : Type} (channel : Bus σ → Channel μ)
    (hstep : ∀ {b : Bus σ} {c : Channel μ} {f : Channel.Event μ}, f.isInternal = true →
      (channel b).after? f = some c → ∃ e d, b.after? e = some d ∧ channel d = c)
    {c : Channel μ} {fs : List (Channel.Event μ)} (hfs : ∀ f ∈ fs, f.isInternal = true)
    (hc : (channel b).run? fs = some c) : ∃ es d, b.run? es = some d ∧ channel d = c := by
  induction fs generalizing b with
  | nil =>
      cases hc
      exact ⟨[], b, rfl, rfl⟩
  | cons f fs ih =>
      obtain ⟨a, ha, hrest⟩ := Channel.run?_cons.1 hc
      obtain ⟨e, b', hb', rfl⟩ := hstep (hfs f List.mem_cons_self) ha
      obtain ⟨es, d, hd, heq⟩ := ih (fun f hf => hfs f (List.mem_cons_of_mem _ hf)) hrest
      exact ⟨e :: es, d, run?_cons.2 ⟨b', hb', hd⟩, heq⟩

/-! ## Messages in the queues -/

/-- A payload that is received waits for the dispatcher. -/
theorem send_of_receive {ms : List Inbound} (h : b.inbound.Ready 1 ms) (call : String × Json) :
    ∃ d m, b.after? (.receive call.1 call.2) = some d ∧ d.inbound = (b.inbound.send m).2 ∧
      (m.headers.sessionId?, m.payload) = (some call.1, call.2) := by
  obtain ⟨session, payload⟩ := call
  refine ⟨_, b.arrival session payload, rfl, ?_, ?_⟩
  · rw [receive_of_open h.closed]
  · rw [sessionId?_arrival]
    rfl

/-- A notification waits for the listener. -/
theorem send_of_notify {k : Nat} {ms : List Outbound} (h : b.outbound.Ready k ms)
    (n : String × String × Json) :
    ∃ d m, b.after? (.notify n.1 n.2.1 n.2.2) = some d ∧ d.outbound = (b.outbound.send m).2 ∧
      (m.headers.sessionId?, m.payload) =
        (some n.1, .notification { method := n.2.1, params := some n.2.2 }) := by
  obtain ⟨session, method, params⟩ := n
  refine ⟨_, Envelope.notice session method (generatedId b.state.desk.made) params, rfl, ?_, ?_⟩
  · rw [notify, outbound_work, posted_notify, if_pos h.accepts]
    rfl
  · rw [Envelope.sessionId?_notice]
    rfl

/-- From calls to runs, for either channel: as many messages as there is room for can be handled at
the same time, each of them brought by a call. -/
theorem exists_handling {μ α β : Type} (channel : Bus σ → Channel μ) {k : Nat} (call : α → Event)
    (see : μ → β) (brings : α → β)
    (hinside : ∀ {b : Bus σ} {c : Channel μ} {f : Channel.Event μ}, f.isInternal = true →
      (channel b).after? f = some c → ∃ e d, b.after? e = some d ∧ channel d = c)
    (hcall : ∀ {b : Bus σ} {ms : List μ}, (channel b).Ready k ms → ∀ a, ∃ d m,
      b.after? (call a) = some d ∧ channel d = ((channel b).send m).2 ∧ see m = brings a)
    {ms : List μ} (h : (channel b).Ready k ms) (hidle : (channel b).running = []) (as : List α)
    (hroom : ms.length + as.length ≤ (channel b).config.permits) :
    ∃ es d ns, b.run? (as.map call ++ es) = some d ∧ (channel d).Handling (ms ++ ns) ∧
      ns.map see = as.map brings := by
  induction as generalizing b ms with
  | nil =>
      obtain ⟨fs, c, hfs, hc, hhandling⟩ :=
        h.handOverAll (Channel.handling_nil hidle) (by simpa using hroom)
      obtain ⟨es, d, hd, rfl⟩ := exists_run channel hinside hfs hc
      exact ⟨es, d, [], hd, by rwa [List.append_nil], rfl⟩
  | cons a as ih =>
      obtain ⟨c, m, hc, hsend, hsee⟩ := hcall h a
      have hready : (channel c).Ready k (ms ++ [m]) := hsend ▸ h.send m
      have hidle' : (channel c).running = [] := by
        rw [hsend, Channel.running_send, hidle]
      have hconfig : (channel c).config = (channel b).config := by
        rw [hsend]
        exact Channel.config_run? (show (channel b).run? [.send m] = _ from rfl)
      obtain ⟨es, d, ns, hd, hhandling, hbrings⟩ := ih hready hidle' (by
        rw [hconfig, List.length_append, List.length_singleton]
        rw [List.length_cons] at hroom
        omega)
      refine ⟨es, d, m :: ns, run?_cons.2 ⟨c, hc, hd⟩, ?_, ?_⟩
      · rwa [List.append_assoc] at hhandling
      · rw [List.map_cons, List.map_cons, hsee, hbrings]

/-! ## Built buses -/

/-- What a bus with these settings does. -/
structure Works (config : BusConfig) (b₀ : Bus σ) : Prop where
  /-- It accepts payloads until a shutdown begins, whatever else happens. -/
  accepts : ∀ es b, b₀.run? es = some b → .shutdown ∉ es → ∀ session payload,
    (b.receive session payload).1 = .ok true
  /-- At all times the inbound channel admits as many deliveries as its settings say. -/
  inbound_admits : ∀ es b, b₀.run? es = some b →
    b.inbound.Admits (max 1 config.inbound.maxConcurrency.toNat)
  /-- And so does the outbound channel. -/
  outbound_admits : ∀ es b, b₀.run? es = some b →
    b.outbound.Admits (max 1 config.outbound.maxConcurrency.toNat)
  /-- Any so many payloads can be dispatched at the same time. -/
  inbound_full : ∀ calls : List (String × Json),
    calls.length ≤ max 1 config.inbound.maxConcurrency.toNat → ∃ es b ms,
      b₀.run? (calls.map (fun c => .receive c.1 c.2) ++ es) = some b ∧ b.inbound.Handling ms ∧
        ms.map (fun m => (m.headers.sessionId?, m.payload)) = calls.map fun c => (some c.1, c.2)
  /-- Any so many notifications can be with a listener at the same time. -/
  outbound_full : ∀ notices : List (String × String × Json),
    notices.length ≤ max 1 config.outbound.maxConcurrency.toNat → ∃ es b ms,
      b₀.run? (.subscribe :: (notices.map (fun n => .notify n.1 n.2.1 n.2.2) ++ es)) = some b ∧
        b.outbound.Handling ms ∧
        ms.map (fun m => (m.headers.sessionId?, m.payload)) = notices.map fun n =>
          (some n.1, .notification { method := n.2.1, params := some n.2.2 })

section Built

variable {config : BusConfig} {mapping : Mapping σ} {groups : List (Group σ)}
  {resolvers : List (ArgumentResolver σ)} {own : List (ReturnHandler σ)} {app : σ} {b₀ : Bus σ}
  (hbuild : build config mapping groups resolvers own app = .ok b₀)

include hbuild

/-- The channels keep the settings with which they were created. -/
theorem config_run? (hrun : b₀.run? es = some b) :
    b.inbound.config = config.inbound ∧ b.outbound.config = config.outbound := by
  have hstaged := staged_build hbuild
  have hinbound := Channel.config_run? (hstaged.inbound_run? hrun)
  have houtbound := Channel.config_run? (hstaged.outbound_run? hrun)
  obtain ⟨registry, _, rfl⟩ := build_eq_ok hbuild
  exact ⟨hinbound, houtbound⟩

/-- The dispatcher never leaves the inbound channel. -/
theorem receive_of_no_shutdown (hrun : b₀.run? es = some b) (hopen : .shutdown ∉ es)
    (session : String) (payload : Json) : (b.receive session payload).1 = .ok true := by
  have hstaged := staged_build hbuild
  have hclosed : b.inbound.closed = false := by
    by_contra hclosed
    rcases (hstaged.inbound_closed_run? hrun).1 (by simpa using hclosed) with hnew | hin
    · obtain ⟨registry, _, rfl⟩ := build_eq_ok hbuild
      cases hnew
    · exact hopen hin
  have hstays : .unsubscribe 1 ∉ b₀.observe onInbound es := by
    intro hin
    obtain ⟨_, _, _, _, _, _, hin⟩ := mem_observe hin
    exact unsubscribe_not_mem_onInbound hin
  have hmember : 1 ∈ b.inbound.members :=
    hstaged.inbound.member_run? (hstaged.inbound_run? hrun) (orderly_build hbuild).dispatcher
      hstays hclosed
  rw [(hstaged.run? hrun).receive_fst fun _ => hmember, hclosed]
  rfl

theorem works_of_build : b₀.Works config where
  accepts _ _ hrun hopen := receive_of_no_shutdown hbuild hrun hopen
  inbound_admits es b hrun := by
    have hadmits := ((staged_build hbuild).run? hrun).inbound.admits
    rwa [(config_run? hbuild hrun).1] at hadmits
  outbound_admits es b hrun := by
    have hadmits := ((staged_build hbuild).run? hrun).outbound.admits
    rwa [(config_run? hbuild hrun).2] at hadmits
  inbound_full calls hroom := by
    have hready : b₀.inbound.Ready 1 [] ∧ b₀.inbound.running = [] ∧
        b₀.inbound.config = config.inbound := by
      obtain ⟨registry, _, rfl⟩ := build_eq_ok hbuild
      exact ⟨Channel.ready_subscribe_new config.inbound, rfl, rfl⟩
    obtain ⟨hready, hidle, hconfig⟩ := hready
    refine exists_handling inbound _ _ _ exists_after_inbound send_of_receive hready hidle calls ?_
    rw [hconfig, List.length_nil, Nat.zero_add]
    exact hroom
  outbound_full notices hroom := by
    have hready : b₀.outbound.subscribe.2.Ready 1 [] ∧ b₀.outbound.subscribe.2.running = [] ∧
        b₀.outbound.subscribe.2.config = config.outbound := by
      rw [outbound_build hbuild]
      exact ⟨Channel.ready_subscribe_new config.outbound, rfl, rfl⟩
    obtain ⟨hready, hidle, hconfig⟩ := hready
    obtain ⟨es, b, ms, hrun, hall⟩ := exists_handling outbound _ _ _ exists_after_outbound
      send_of_notify (b := { b₀ with outbound := b₀.outbound.subscribe.2 }) hready hidle notices (by
        rw [hconfig, List.length_nil, Nat.zero_add]
        exact hroom)
    exact ⟨es, b, ms, run?_cons.2 ⟨_, rfl, hrun⟩, hall⟩

end Built

/-! ## Building -/

/-- What comes of building a bus. -/
structure Building (config : BusConfig) (mapping : Mapping σ) (groups : List (Group σ))
    (resolvers : List (ArgumentResolver σ)) (own : List (ReturnHandler σ)) (app : σ) : Prop where
  /-- It is an error just when two methods that are not the same handler go to one destination. -/
  error_iff : (∃ e, build config mapping groups resolvers own app = .error (.inl e)) ↔
    ¬Registry.Unambiguous (Registry.mappings mapping groups)
  /-- The error names the first clash. -/
  error_eq : ∀ e, build config mapping groups resolvers own app = .error (.inl e) →
    Registry.FirstClash (Registry.mappings mapping groups) e
  /-- Else it is a panic just when a channel should have more permits than there can be. -/
  panic_iff : ∀ p, build config mapping groups resolvers own app = .error (.inr p) ↔
    Registry.Unambiguous (Registry.mappings mapping groups) ∧ ¬config.Fits ∧
      p = Channel.tooManyPermits
  /-- Otherwise the bus is built. -/
  ok_iff : (∃ b, build config mapping groups resolvers own app = .ok b) ↔
    Registry.Unambiguous (Registry.mappings mapping groups) ∧ config.Fits
  /-- It dispatches to the handlers of the groups. -/
  dispatcher : ∀ b, build config mapping groups resolvers own app = .ok b →
    ∃ registry, Registry.ofGroups mapping groups = .ok registry ∧
      b.dispatcher = .new registry resolvers own
  /-- And it works. -/
  works : ∀ b, build config mapping groups resolvers own app = .ok b → b.Works config

section Parts

variable (config : BusConfig) (mapping : Mapping σ) (groups : List (Group σ))
  (resolvers : List (ArgumentResolver σ)) (own : List (ReturnHandler σ)) (app : σ)

/-- The groups come first, and the channels only where these agree. -/
theorem build_cases :
    (∃ e, build config mapping groups resolvers own app = .error (.inl e) ∧
      Registry.FirstClash (Registry.mappings mapping groups) e) ∨
    (build config mapping groups resolvers own app = .error (.inr Channel.tooManyPermits) ∧
      Registry.Unambiguous (Registry.mappings mapping groups) ∧ ¬config.Fits) ∨
    ((∃ b, build config mapping groups resolvers own app = .ok b) ∧
      Registry.Unambiguous (Registry.mappings mapping groups) ∧ config.Fits) := by
  rcases Registry.holds_or_clash mapping groups with ⟨registry, hregistry, _⟩ | ⟨e, he, hclash⟩
  · have hagree := Registry.ofGroups_ok_iff.1 ⟨registry, hregistry⟩
    right
    unfold build
    rw [hregistry]
    rcases Nat.lt_or_ge Channel.maxPermits (max 1 config.inbound.maxConcurrency.toNat) with
      hin | hin
    · rw [Channel.create_of_lt hin]
      exact .inl ⟨rfl, hagree, fun hfits => Nat.not_le_of_lt hin hfits.1⟩
    · rw [Channel.create_of_le hin]
      rcases Nat.lt_or_ge Channel.maxPermits (max 1 config.outbound.maxConcurrency.toNat) with
        hout | hout
      · rw [Channel.create_of_lt hout]
        exact .inl ⟨rfl, hagree, fun hfits => Nat.not_le_of_lt hout hfits.2⟩
      · rw [Channel.create_of_le hout]
        exact .inr ⟨⟨_, rfl⟩, hagree, hin, hout⟩
  · unfold build
    rw [he]
    exact .inl ⟨e, rfl, hclash⟩

/-- Whether a bus can be built is decided by the groups and by the sizes of its channels. -/
theorem building_build : Building config mapping groups resolvers own app := by
  have hcases := build_cases config mapping groups resolvers own app
  refine
    { error_iff := ?_, error_eq := ?_, panic_iff := ?_, ok_iff := ?_, dispatcher := ?_
      works := fun _ hbuild => works_of_build hbuild }
  · rcases hcases with ⟨e, he, hclash⟩ | ⟨hpanic, hagree, _⟩ | ⟨⟨b, hb⟩, hagree, _⟩
    · simp [he, hclash.not_unambiguous]
    · simp [hpanic, hagree]
    · simp [hb, hagree]
  · intro e he
    rcases hcases with ⟨e', he', hclash⟩ | ⟨hpanic, _⟩ | ⟨⟨b, hb⟩, _⟩
    · rw [he] at he'
      cases he'
      exact hclash
    · rw [he] at hpanic
      cases hpanic
    · rw [he] at hb
      cases hb
  · intro p
    rcases hcases with ⟨e, he, hclash⟩ | ⟨hpanic, hagree, hmany⟩ | ⟨⟨b, hb⟩, _, hfits⟩
    · simp [he, hclash.not_unambiguous]
    · simp [hpanic, hagree, hmany, eq_comm]
    · simp [hb, hfits]
  · rcases hcases with ⟨e, he, hclash⟩ | ⟨hpanic, _, hmany⟩ | ⟨⟨b, hb⟩, hagree, hfits⟩
    · simp [he, hclash.not_unambiguous]
    · simp [hpanic, hmany]
    · simp [hb, hagree, hfits]
  · intro b hbuild
    obtain ⟨registry, hregistry, rfl⟩ := build_eq_ok hbuild
    exact ⟨registry, hregistry, rfl⟩

end Parts

/-- Settings that ask for one permit more than there can be. -/
def crowded : Json :=
  Json.ofFields [("inbound", Json.ofFields [("max_concurrency", .ofNat (Channel.maxPermits + 1))])]

/-- They are accepted as settings, but no bus can be built with them, not even one without groups:
nothing but the lower end of the numbers is looked after. -/
theorem panics_crowded : ∃ config : BusConfig, BusConfig.decode crowded.toDoc = .ok config ∧
    Registry.Unambiguous (Registry.mappings .standard ([] : List (Group Unit))) ∧
    build config .standard ([] : List (Group Unit)) [] [] () =
      .error (.inr Channel.tooManyPermits) := by
  refine ⟨_, rfl, nofun, rfl⟩

end Bus

end Switchboard
