/-
# Switchboard.Proofs.Channel.Closing -- what a shutdown waits for

What was meant for a subscriber and is not done yet is `outstanding`: it runs, or it waits. As long
as nothing is given up, whatever is outstanding and whatever the subscriber is done with are, in
any order, what was meant for it (`Sound.finished_append_outstanding`), however many deliveries run
at a time.

From this follows what a call to shut a channel down has seen when it may return. `Settled` says it
for any number of calls, which may overlap. The call that closes the channel waits until nothing is
outstanding, and nothing new is accepted meanwhile. Every later one may return at once, so it has
seen nothing: when it finds a delivery running or a message queued, these are still to be done.
-/

import Switchboard.Proofs.Channel.Permits

namespace Switchboard

namespace Channel

variable {μ : Type} {b c d : Channel μ} {e : Event μ} {es before after : List (Event μ)} {id : Nat}

/-! ## What is outstanding -/

/-- The messages that are being delivered to a subscriber, and those that wait for it. -/
def outstanding (c : Channel μ) (id : Nat) : List μ := messagesFor id c.running ++ c.pending id

theorem outstanding_of_isDrained (h : c.isDrained = true) (id : Nat) : c.outstanding id = [] := by
  obtain ⟨hlanes, hrunning⟩ := isDrained_iff.1 h
  have hpending : c.pending id = [] := pending_of_none (by simp [lane?, hlanes])
  rw [outstanding, hpending, hrunning]
  rfl

namespace Sound

/-- The step: what a subscriber was given before an event, and with it, it is done with at the event
or has still in hand after it. -/
theorem running_perm_after? (h : c.Sound) (hd : c.after? e = some d) :
    (messagesFor id c.running ++ handedBy id c e d).Perm
      (finishedBy id c e d ++ messagesFor id d.running) := by
  rcases running_after? hd with ⟨i, l, m, rfl, _, _, hrun⟩ | ⟨n, x, rfl, _, _, hrun⟩ |
    ⟨n, ending, x, rfl, hx, _, hrun⟩ | ⟨hstart, _, hfinish, hrun⟩
  · have hnew : handedBy id c (.handOver i) d =
        messagesFor id [{ number := c.started, lane := i, message := m }] := by
      simp [handedBy, hrun]
    rw [hnew, hrun, messagesFor_append]
    exact List.Perm.refl _
  · rw [handedBy_eq_nil hd (by simp), hrun, messagesFor_begun, List.append_nil]
    exact List.Perm.refl _
  · -- Deliveries end in any order, so what ends may stand anywhere among what runs.
    have hperm : (messagesFor id c.running).Perm _ :=
      messagesFor_perm (h.running_perm_of_finish? hx hrun)
    have hdone : finishedBy id c (.finish n ending) d = messagesFor id [x] := by
      simp [finishedBy, hx]
    rw [handedBy_eq_nil hd (by simp), List.append_nil, hdone, ← messagesFor_append]
    exact hperm
  · rw [handedBy_eq_nil hd hstart, finishedBy_eq_nil (Event.isFinish_eq_false hfinish), hrun,
      List.append_nil]
    exact List.Perm.refl _

/-- The run: all that a subscriber was given it is done with, once each, or has still in hand. -/
theorem running_perm_run? (h : c.Sound) (hd : c.run? es = some d) :
    (messagesFor id c.running ++ handed id c es).Perm
      (finished id c es ++ messagesFor id d.running) := by
  induction es generalizing c with
  | nil =>
      cases hd
      exact List.Perm.of_eq (List.append_nil _)
  | cons e es ih =>
      obtain ⟨b, hb, hrun⟩ := run?_cons.1 hd
      rw [handed, observe_cons hb, finished, observe_cons hb, ← List.append_assoc]
      refine ((h.running_perm_after? hb).append_right _).trans ?_
      rw [List.append_assoc, List.append_assoc]
      exact (ih (h.after? hb) hrun).append_left _

/-- As long as nothing is given up, a subscriber is done with all that was meant for it, once each,
but for what is outstanding. -/
theorem finished_append_outstanding (h : c.Sound) (hd : c.run? es = some d)
    (hkept : d.cancelled = false) :
    (c.outstanding id ++ c.roll.meantFor id es).Perm
      (finished id c es ++ d.outstanding id) := by
  have hlaw : handed id c es ++ d.pending id = _ := h.handed_append_pending hd hkept
  have hgiven : c.outstanding id ++ c.roll.meantFor id es =
      messagesFor id c.running ++ handed id c es ++ d.pending id := by
    rw [outstanding, List.append_assoc, ← hlaw, List.append_assoc]
  rw [hgiven, outstanding, ← List.append_assoc]
  exact (h.running_perm_run? hd).append_right _

end Sound

/-! ## What a call has seen -/

/-- What a call to shut a channel down has seen when it may return, if nothing was given up. It was
called after the events `before`, in the state `b`; since then there were the events `after`, which
have led to the state `d`. -/
structure Settled (config : ChannelConfig) (before after : List (Event μ)) (b d : Channel μ) :
    Prop where
  /-- The call closes the channel just when no other call did before it. -/
  first_iff : b.close.1 = true ↔ .close ∉ before
  /-- From the first call on, nothing is accepted. -/
  accepted_eq : ({} : Roll).accepted (before ++ .close :: after) = ({} : Roll).accepted before
  /-- Every subscriber is done with all that was accepted for it, but for what is outstanding. -/
  finished_perm : ∀ id, (finished id (new config) (before ++ .close :: after) ++
    d.outstanding id).Perm (({} : Roll).meantFor id (before ++ .close :: after))
  /-- When the first call returns, they are done with everything. -/
  first : .close ∉ before → d.mayReturn b.close.1 = true → ∀ id,
    (finished id (new config) (before ++ .close :: after)).Perm
      (({} : Roll).meantFor id (before ++ .close :: after))
  /-- Every other call may return at any moment, whatever is outstanding then. -/
  again : .close ∈ before → d.mayReturn b.close.1 = true

theorem settled_of_run? {config : ChannelConfig} (hbefore : (new config).run? before = some b)
    (hafter : b.run? (.close :: after) = some d) (hkept : d.cancelled = false) :
    Settled config before after b d := by
  have h₀ : (new config : Channel μ).Sound := sound_new config
  have hrun : (new config).run? (before ++ .close :: after) = some d :=
    run?_append.2 ⟨b, hbefore, hafter⟩
  have hclosed : b.closed = true ↔ .close ∈ before := by
    rw [h₀.closed_run? hbefore]
    exact or_iff_right nofun
  have hfirst := close_fst b
  have hlaw : ∀ id, (finished id (new config) (before ++ .close :: after) ++
      d.outstanding id).Perm (({} : Roll).meantFor id (before ++ .close :: after)) := by
    intro id
    have hperm : ((new config).outstanding id ++ _).Perm _ :=
      h₀.finished_append_outstanding hrun hkept
    rw [outstanding, pending_new] at hperm
    exact hperm.symm
  refine
    { first_iff := by rw [hfirst, ← hclosed]; simp, accepted_eq := ?_, finished_perm := hlaw
      first := ?_, again := ?_ }
  · -- A shutdown strikes off everybody.
    have hnone : ((({} : Roll).afterAll before).after (.close : Event μ)).accepted after = [] :=
      Roll.accepted_eq_nil_of_closed rfl rfl
    rw [Roll.accepted_append]
    show _ ++ ([] ++ _) = _
    rw [hnone]
    exact List.append_nil _
  · intro hopen hreturn id
    have hb : b.closed = false := by simpa using mt hclosed.1 hopen
    have hdrained : d.isDrained = true := by
      rw [hfirst, hb] at hreturn
      exact hreturn
    have hperm := hlaw id
    rw [outstanding_of_isDrained hdrained, List.append_nil] at hperm
    exact hperm
  · intro hclose
    rw [hfirst, hclosed.2 hclose]
    rfl

end Channel

end Switchboard
