/-
# Switchboard.Proofs.Bus.Overlap -- shutdowns that overlap

Any number of shutdowns of a bus may be under way at once. `FirstWaits` says how they share the
inbound channel: the first one found it open and waits for it, and every later one found it closed
and waits for nothing.

What this means for the outbound channel, which a shutdown closes as soon as it is past the inbound
one, is `Passing`. The first shutdown comes to that only when the dispatcher is done with all that
was accepted. Every later one closes the outbound channel at once, while requests may be queued or
running whose replies are lost then: `lost_overlapping` is a run in which that happens although
nobody runs out of time. That a shutdown in good time loses nothing (`delivered_of_shutdown`) thus
holds of a single one only.
-/

import Switchboard.Proofs.Bus.Shutdown
import Switchboard.Proofs.Channel.Closing

namespace Switchboard

namespace Bus

variable {σ : Type} {b b₀ d : Bus σ} {e : Event} {es : List Event} {i : Nat}

/-! ## Who waits for the inbound channel -/

/-- The shutdown that found the inbound channel open is the first one. -/
structure FirstWaits (b : Bus σ) : Prop where
  staged : b.Staged
  /-- Without a shutdown the inbound channel is open. -/
  fresh : b.shutdowns = [] → b.inbound.closed = false
  /-- Of the shutdowns that are not past the inbound channel, the first one waits for it. -/
  waits_iff : ∀ i waits, b.shutdowns[i]? = some (.closingInbound waits) → (waits = true ↔ i = 0)

namespace FirstWaits

/-- The inbound channel is open as long as there is no shutdown. -/
theorem closed_eq_false_iff (h : b.FirstWaits) : b.inbound.closed = false ↔ b.shutdowns = [] := by
  refine ⟨fun hopen => ?_, h.fresh⟩
  by_contra hne
  rw [h.staged.inbound_closed hne] at hopen
  cases hopen

/-- A shutdown that begins waits for the inbound channel just when it is the first. -/
theorem beginShutdown (h : b.FirstWaits) : b.beginShutdown.FirstWaits := by
  have hd : b.after? .shutdown = some b.beginShutdown := rfl
  refine { staged := h.staged.after? hd, fresh := ?_, waits_iff := ?_ }
  · exact fun hnil => absurd hnil (by simp [Bus.beginShutdown])
  · intro i waits hi
    have hi : (b.shutdowns ++ [.closingInbound b.inbound.close.1])[i]? =
        some (.closingInbound waits) := hi
    rcases Nat.lt_or_ge i b.shutdowns.length with hold | hnew
    · rw [List.getElem?_append_left hold] at hi
      exact h.waits_iff i waits hi
    · rw [List.getElem?_append_right hnew] at hi
      -- The new one stands last, so it is the first if and only if there was none before.
      obtain ⟨hlast, hwaits⟩ : i = b.shutdowns.length ∧ waits = !b.inbound.closed := by
        rw [Channel.close_fst] at hi
        cases hk : i - b.shutdowns.length with
        | zero =>
            rw [hk] at hi
            cases hi
            exact ⟨by omega, rfl⟩
        | succ k =>
            rw [hk] at hi
            cases hi
      rw [hlast, hwaits, List.length_eq_zero_iff, ← h.closed_eq_false_iff, Bool.not_eq_true']

/-- What replaces a shutdown that goes on or runs out of time is past the inbound channel. -/
theorem of_set {s : Shutdown} (h : b.FirstWaits) (hstaged : d.Staged)
    (hd : d.shutdowns = b.shutdowns.set i s) (hs : ∀ waits, s ≠ .closingInbound waits)
    (hclosed : d.inbound.closed = b.inbound.closed) : d.FirstWaits := by
  refine { staged := hstaged, fresh := ?_, waits_iff := ?_ }
  · intro hnil
    rw [hd, List.set_eq_nil_iff] at hnil
    exact hclosed.trans (h.fresh hnil)
  · intro j waits hj
    rw [hd, List.getElem?_set] at hj
    split at hj
    · split at hj
      · exact absurd (Option.some.inj hj) (hs waits)
      · cases hj
    · exact h.waits_iff j waits hj

/-- The step: a shutdown that is called for stands last, and no event brings one back to the inbound
channel. -/
theorem after? (h : b.FirstWaits) (hd : b.after? e = some d) : d.FirstWaits := by
  have hstaged := h.staged.after? hd
  cases e with
  | shutdown =>
      cases hd
      exact h.beginShutdown
  | advance i =>
      rcases advance?_eq_some hd with ⟨_, _, _, rfl⟩ | ⟨_, _, _, rfl⟩
      · exact h.of_set hstaged rfl nofun rfl
      · exact h.of_set hstaged rfl nofun rfl
  | expire i =>
      rcases expire?_eq_some hd with ⟨_, rfl⟩ | ⟨_, rfl⟩
      · exact h.of_set hstaged rfl nofun rfl
      · exact h.of_set hstaged rfl nofun rfl
  | _ =>
      have hshutdowns := shutdowns_after? hd nofun nofun nofun
      refine { staged := hstaged, fresh := ?_, waits_iff := ?_ }
      all_goals rw [hshutdowns]
      · exact fun hnil => (h.staged.inbound_closed_eq hd nofun).trans (h.fresh hnil)
      · exact h.waits_iff

/-- The run. -/
theorem run? (h : b.FirstWaits) (hd : b.run? es = some d) : d.FirstWaits := by
  induction es generalizing b with
  | nil => cases hd; exact h
  | cons e es ih =>
      obtain ⟨c, hc, hrun⟩ := run?_cons.1 hd
      exact ih (h.after? hc) hrun

end FirstWaits

/-! ## What a shutdown has seen -/

/-- What a shutdown has seen of the inbound channel when it goes on to the outbound one, if nothing
was given up. The events `es` have led from the new bus `b₀` to the state `b`. -/
structure Passing (b₀ : Bus σ) (es : List Event) (b : Bus σ) (i : Nat) : Prop where
  /-- The dispatcher is done with all that was accepted, but for what is outstanding. -/
  finished_perm : (Channel.finished 1 b₀.inbound (b₀.observe onInbound es) ++
    b.inbound.outstanding 1).Perm (b₀.observe accepted es)
  /-- The first shutdown goes on when nothing is outstanding, and then the dispatcher is done with
  everything. -/
  first : i = 0 → ∀ d, b.advance? i = some d → b.inbound.isDrained = true ∧
    (Channel.finished 1 b₀.inbound (b₀.observe onInbound es)).Perm (b₀.observe accepted es)
  /-- Every other shutdown may close the outbound channel at any moment, whatever is outstanding
  then. -/
  later : i ≠ 0 → ∃ d, b.advance? i = some d ∧ d.outbound.closed = true ∧
    d.inbound.outstanding 1 = b.inbound.outstanding 1

section Built

variable {config : BusConfig} {mapping : Mapping σ} {groups : List (Group σ)}
  {resolvers : List (ArgumentResolver σ)} {own : List (ReturnHandler σ)} {app : σ} {waits : Bool}
  (hbuild : build config mapping groups resolvers own app = .ok b₀)

include hbuild

theorem firstWaits_build : b₀.FirstWaits := by
  have hstaged := staged_build hbuild
  obtain ⟨registry, _, rfl⟩ := build_eq_ok hbuild
  exact { staged := hstaged, fresh := fun _ => rfl, waits_iff := nofun }

/-- The dispatcher is done with all that was accepted, once each, but for what is outstanding. -/
theorem finished_append_outstanding (hrun : b₀.run? es = some b)
    (hkept : b.inbound.cancelled = false) :
    (Channel.finished 1 b₀.inbound (b₀.observe onInbound es) ++ b.inbound.outstanding 1).Perm
      (b₀.observe accepted es) := by
  have hstaged := staged_build hbuild
  have hmeant := hstaged.meantFor_inbound (orderly_build hbuild).dispatcher hrun
  have hlaw : (b₀.inbound.outstanding 1 ++ _).Perm _ :=
    hstaged.inbound.finished_append_outstanding (hstaged.inbound_run? hrun) hkept
  have hnone : b₀.inbound.outstanding 1 = [] := by
    obtain ⟨registry, _, rfl⟩ := build_eq_ok hbuild
    rfl
  rw [hnone, hmeant] at hlaw
  exact hlaw.symm

theorem passing_of_run? (hrun : b₀.run? es = some b) (hkept : b.inbound.cancelled = false)
    (hi : b.shutdowns[i]? = some (.closingInbound waits)) : Passing b₀ es b i := by
  have hwaits := ((firstWaits_build hbuild).run? hrun).waits_iff i waits hi
  have hlaw := finished_append_outstanding hbuild hrun hkept
  refine { finished_perm := hlaw, first := ?_, later := ?_ }
  · intro hfirst d hd
    have hdrained : b.inbound.isDrained = true := by
      rcases advance?_eq_some hd with ⟨w, hw, hreturn, _⟩ | ⟨w, hw, _, _⟩
      · rw [hi] at hw
        cases hw
        rw [hwaits.2 hfirst] at hreturn
        exact hreturn
      · rw [hi] at hw
        cases hw
    rw [Channel.outstanding_of_isDrained hdrained, List.append_nil] at hlaw
    exact ⟨hdrained, hlaw⟩
  · intro hlater
    have hfree : waits = false := by simpa using mt hwaits.1 hlater
    have hd : b.advance? i = some { b with
        outbound := b.outbound.close.2
        shutdowns := b.shutdowns.set i (.closingOutbound b.outbound.close.1) } := by
      rw [hfree] at hi
      simp [advance?, hi, Channel.mayReturn]
    exact ⟨_, hd, Channel.closed_close b.outbound, rfl⟩

end Built

/-! ## Both kinds of calls -/

/-- A call to shut a channel down that finds it open returns in good time only when every
subscriber is done with all that was accepted for it, and the first shutdown of a bus closes the
outbound channel only when nothing is outstanding on the inbound one. A call that overlaps such a
one waits for nothing. -/
theorem settled_of_shutdown {μ : Type} {channelConfig : ChannelConfig} {c₀ : Channel μ}
    (hcreate : Channel.create channelConfig = .ok c₀) {config : BusConfig} {mapping : Mapping σ}
    {groups : List (Group σ)} {resolvers : List (ArgumentResolver σ)}
    {own : List (ReturnHandler σ)} {app : σ}
    (hbuild : build config mapping groups resolvers own app = .ok b₀) :
    (∀ (before after : List (Channel.Event μ)) (c d : Channel μ), c₀.run? before = some c →
      c.run? (.close :: after) = some d → d.cancelled = false →
      Channel.Settled channelConfig before after c d) ∧
    ∀ (es : List Event) (b : Bus σ) (i : Nat) (waits : Bool), b₀.run? es = some b →
      b.inbound.cancelled = false → b.shutdowns[i]? = some (.closingInbound waits) →
      Passing b₀ es b i := by
  refine ⟨fun before after c d hbefore hafter hkept => ?_, fun es b i waits hrun hkept hi => ?_⟩
  · rw [Channel.eq_new_of_create hcreate] at hbefore
    exact Channel.settled_of_run? hbefore hafter hkept
  · exact passing_of_run? hbuild hrun hkept hi

/-- A call to shut a channel down, with a message still queued. -/
def queuedCall : List (Channel.Event Nat) := [.subscribe, .send 7, .close]

/-- A bus whose second shutdown is called for while a request is queued. -/
def overlapping : List Event :=
  [.subscribe, .receive "one" (.object [("id", .integer 7), ("method", .string "nothing")]),
    .shutdown, .shutdown]

/-- The request is handled after the second shutdown went on, and in good time for the first. -/
def handledLate : List Event :=
  [.inbound (.take 1), .inbound (.lineUp 1), .inbound (.acquire 1), .inbound (.handOver 1),
    .dispatch 0, .inbound (.finish 0 .succeeded), .inbound (.leave 1), .advance 0, .advance 0,
    .outbound (.leave 1), .advance 1]

/-- Both calls of each kind, at the moment of the second one. -/
theorem settled_of_shutdown_overlapping :
    ∃ (c₀ c d : Channel Nat) (b₀ b : Bus Unit), Channel.create Channel.single = .ok c₀ ∧
      c₀.run? queuedCall = some c ∧ c.run? [.close] = some d ∧ d.cancelled = false ∧
      Channel.Settled Channel.single queuedCall [] c d ∧
      build {} .standard [] [] [] () = .ok b₀ ∧ b₀.run? overlapping = some b ∧
      b.inbound.cancelled = false ∧
      b.shutdowns = [.closingInbound true, .closingInbound false] ∧
      Passing b₀ overlapping b 0 ∧ Passing b₀ overlapping b 1 := by
  have hend : (match build {} .standard [] [] [] () with
      | .ok b₀ => (b₀.run? overlapping).map fun b => (b.inbound.cancelled, b.shutdowns)
      | .error _ => none) = some (false, [.closingInbound true, .closingInbound false]) := by
    decide +kernel
  cases hbuild : build {} .standard [] [] [] () with
  | error e =>
      rw [hbuild] at hend
      cases hend
  | ok b₀ =>
      rw [hbuild] at hend
      obtain ⟨b, hrun, hend⟩ := Option.map_eq_some_iff.1 hend
      obtain ⟨hkept, hshutdowns⟩ := Prod.mk.inj hend
      have hcreate : Channel.create Channel.single =
          .ok (Channel.new Channel.single : Channel Nat) := rfl
      obtain ⟨hsettled, hpassing⟩ := settled_of_shutdown hcreate hbuild
      have hfirst := hpassing overlapping b 0 true hrun hkept (by rw [hshutdowns]; rfl)
      have hlater := hpassing overlapping b 1 false hrun hkept (by rw [hshutdowns]; rfl)
      exact ⟨_, _, _, b₀, b, hcreate, rfl, rfl, rfl, hsettled queuedCall [] _ _ rfl rfl rfl, rfl,
        hrun, hkept, hshutdowns, hfirst, hlater⟩

/-- A second call returns while a message is queued, so that what it is meant to wait for is not
done. Of two shutdowns of a bus the second one closes the outbound channel, the request is handled
in good time, both shutdowns come to their end, and nobody hears the reply. -/
theorem lost_overlapping :
    (¬∀ (before after : List (Channel.Event Nat)) (c d : Channel Nat),
      (Channel.new Channel.single).run? before = some c → c.run? (.close :: after) = some d →
      d.cancelled = false → d.mayReturn c.close.1 = true → ∀ id,
      (Channel.finished id (Channel.new Channel.single) (before ++ .close :: after)).Perm
        (({} : Channel.Roll).meantFor id (before ++ .close :: after))) ∧
    ∃ b₀ b c d : Bus Unit, build {} .standard [] [] [] () = .ok b₀ ∧
      b₀.run? overlapping = some b ∧ b.advance? 1 = some c ∧ c.run? handledLate = some d ∧
      c.outbound.closed = true ∧ (c.inbound.outstanding 1).length = 1 ∧
      (b₀.observe accepted overlapping).countP (fun m => Envelope.owesReply m.payload) = 1 ∧
      (c.observe handles handledLate).length = 1 ∧ d.shutdowns = [.over, .over] ∧
      d.inbound.cancelled = false ∧ d.outbound.cancelled = false ∧
      b₀.observe (heard 1) (overlapping ++ .advance 1 :: handledLate) = [] := by
  constructor
  · intro hclaim
    have hperm := hclaim queuedCall [] _ _ rfl rfl rfl rfl 1
    exact absurd hperm.length_eq (by decide)
  · have hend : (match build {} .standard [] [] [] () with
        | .ok b₀ => (b₀.run? overlapping).bind fun b => (b.advance? 1).bind fun c =>
            (c.run? handledLate).map fun d =>
              (d.shutdowns, [c.outbound.closed, d.inbound.cancelled, d.outbound.cancelled],
                [(c.inbound.outstanding 1).length,
                  (b₀.observe accepted overlapping).countP fun m => Envelope.owesReply m.payload,
                  (c.observe handles handledLate).length,
                  (b₀.observe (heard 1) (overlapping ++ .advance 1 :: handledLate)).length])
        | .error _ => none) =
          some ([.over, .over], [true, false, false], [1, 1, 1, 0]) := by
      decide +kernel
    cases hbuild : build {} .standard [] [] [] () with
    | error e =>
        rw [hbuild] at hend
        cases hend
    | ok b₀ =>
        rw [hbuild] at hend
        obtain ⟨b, hrun, hend⟩ := Option.bind_eq_some_iff.1 hend
        obtain ⟨c, hadvance, hend⟩ := Option.bind_eq_some_iff.1 hend
        obtain ⟨d, hlate, hend⟩ := Option.map_eq_some_iff.1 hend
        simp only [Prod.mk.injEq, List.cons.injEq, and_true, List.length_eq_zero_iff] at hend
        obtain ⟨hover, ⟨hclosed, hin, hout⟩, hqueued, howed, hhandled, hheard⟩ := hend
        exact ⟨b₀, b, c, d, rfl, hrun, hadvance, hlate, hclosed, hqueued, howed, hhandled, hover,
          hin, hout, hheard⟩

end Bus

end Switchboard
