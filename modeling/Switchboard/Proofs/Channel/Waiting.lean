/-
# Switchboard.Proofs.Channel.Waiting -- messages that are still to be handled

A message that was sent waits in the queue of a lane, then in the lane's hand, and then in a
delivery, until the subscriber begins to handle it. `waiting` are the messages that do so at one
moment. Whatever happens to a channel, they become more only by sending (`mem_waiting_after?`), and
what a subscriber begins to handle is one of them.
-/

import Switchboard.Proofs.Channel.Sound

namespace Switchboard

namespace Channel

variable {μ : Type} {c d : Channel μ} {e : Event μ} {es : List (Event μ)} {m : μ} {n : Nat}

/-- The messages that nobody has begun to handle. -/
def waiting (c : Channel μ) : List μ :=
  c.lanes.flatMap Lane.pending ++ (c.running.filter fun x => !x.begun).map Delivery.message

theorem mem_waiting : m ∈ c.waiting ↔ (∃ l ∈ c.lanes, m ∈ l.pending) ∨
    ∃ x ∈ c.running, x.begun = false ∧ x.message = m := by
  simp [waiting, and_assoc]

theorem mem_pending_push {l : Lane μ} {m' : μ} (h : m ∈ (l.push m').pending) :
    m ∈ l.pending ∨ m = m' := by
  unfold Lane.push at h
  split at h
  · simpa [Lane.pending, or_assoc] using h
  · exact .inl h

/-- A delivery that can begin brings a message that waits. -/
theorem mem_waiting_of_begin? {x : Delivery μ} (hx : c.delivery? n = some x)
    (hd : c.begin? n = some d) : x.message ∈ c.waiting := by
  obtain ⟨y, hy, hbegun, _⟩ := begin?_eq_some hd
  rw [hx] at hy
  cases hy
  exact mem_waiting.2 (.inr ⟨x, mem_of_delivery? hx, hbegun, rfl⟩)

/-- Changing a lane brings no message that does not wait, if all that the lane has then waits. -/
theorem mem_waiting_mapLane {id : Nat} {f : Lane μ → Lane μ} {running : List (Delivery μ)}
    (hlane : ∀ l ∈ c.lanes, m ∈ (f l).pending → m ∈ c.waiting)
    (hrunning : ∀ x ∈ running, x.begun = false → x.message = m → m ∈ c.waiting)
    (hm : m ∈ Channel.waiting { c with lanes := (c.mapLane id f).lanes, running := running }) :
    m ∈ c.waiting := by
  rcases mem_waiting.1 hm with ⟨l, hl, hhas⟩ | ⟨x, hx, hbegun, hmessage⟩
  · obtain ⟨k, hk, rfl⟩ := List.mem_map.1 (show l ∈ c.lanes.map _ from hl)
    split at hhas
    · exact hlane k hk hhas
    · exact mem_waiting.2 (.inl ⟨k, hk, hhas⟩)
  · exact hrunning x hx hbegun hmessage

/-- A message that waits after an event waited before, or was sent. -/
theorem mem_waiting_after? (hd : c.after? e = some d) (hm : m ∈ d.waiting) :
    m ∈ c.waiting ∨ e = .send m := by
  have hdelivered : ∀ x ∈ c.running, x.begun = false → x.message = m → m ∈ c.waiting :=
    fun x hx hbegun hmessage => mem_waiting.2 (.inr ⟨x, hx, hbegun, hmessage⟩)
  have hlanes : ∀ l ∈ c.lanes, m ∈ l.pending → m ∈ c.waiting :=
    fun l hl hhas => mem_waiting.2 (.inl ⟨l, hl, hhas⟩)
  cases e with
  | send m' =>
      cases hd
      cases haccepts : c.accepts with
      | false =>
          rw [send_of_not_accepts haccepts] at hm
          exact .inl hm
      | true =>
          rw [send_of_accepts haccepts] at hm
          rcases mem_waiting.1 hm with ⟨l, hl, hhas⟩ | ⟨x, hx, hbegun, hmessage⟩
          · obtain ⟨k, hk, rfl⟩ := List.mem_map.1 hl
            rcases mem_pending_push hhas with hold | rfl
            · exact .inl (hlanes k hk hold)
            · exact .inr rfl
          · exact .inl (hdelivered x hx hbegun hmessage)
  | subscribe =>
      cases hd
      left
      cases hclosed : c.closed with
      | true =>
          rw [subscribe_of_closed hclosed] at hm
          exact hm
      | false =>
          rw [subscribe_of_open hclosed] at hm
          rcases mem_waiting.1 hm with ⟨l, hl, hhas⟩ | ⟨x, hx, hbegun, hmessage⟩
          · rcases List.mem_append.1 hl with hl | hl
            · exact hlanes l hl hhas
            · rw [List.mem_singleton.1 hl] at hhas
              cases hhas
          · exact hdelivered x hx hbegun hmessage
  | unsubscribe id =>
      cases hd
      exact .inl (mem_waiting_mapLane (f := Lane.detach) hlanes hdelivered hm)
  | take id =>
      obtain ⟨_, l, m', rest, hl, hqueue, _, rfl⟩ := take?_eq_some hd
      refine .inl (mem_waiting_mapLane (fun _ _ hhas => ?_) hdelivered hm)
      -- What the lane holds now, and what is left of its queue, was in the queue before.
      refine hlanes l (mem_of_lane? hl) ?_
      rw [Lane.pending, hqueue]
      exact List.mem_append_right _ hhas
  | lineUp id =>
      obtain ⟨_, _, _, _, _, rfl⟩ := lineUp?_eq_some hd
      exact .inl hm
  | acquire id =>
      obtain ⟨_, _, l, m', hl, hheld, rfl⟩ := acquire?_eq_some hd
      refine .inl (mem_waiting_mapLane (fun k hk hhas => ?_) hdelivered hm)
      rcases List.mem_cons.1 hhas with rfl | hqueue
      · refine hlanes l (mem_of_lane? hl) ?_
        rw [Lane.pending, hheld]
        exact List.mem_cons_self
      · exact hlanes k hk (List.mem_append_right _ hqueue)
  | handOver id =>
      obtain ⟨l, m', hl, hheld, rfl⟩ := handOver?_eq_some hd
      refine .inl (mem_waiting_mapLane (fun k hk hhas => ?_) (fun x hx hbegun hmessage => ?_) hm)
      · exact hlanes k hk (List.mem_append_right _ hhas)
      · rcases List.mem_append.1 hx with hx | hx
        · exact hdelivered x hx hbegun hmessage
        · -- The new delivery brings what the lane held before.
          rw [List.mem_singleton.1 hx] at hmessage
          cases hmessage
          refine hlanes l (mem_of_lane? hl) ?_
          rw [Lane.pending, hheld]
          exact List.mem_cons_self
  | «begin» n =>
      obtain ⟨_, _, _, rfl⟩ := begin?_eq_some hd
      left
      rcases mem_waiting.1 hm with ⟨l, hl, hhas⟩ | ⟨x, hx, hbegun, hmessage⟩
      · exact hlanes l hl hhas
      · obtain ⟨y, hy, rfl⟩ := List.mem_map.1 hx
        split at hbegun
        · cases hbegun
        · exact hdelivered y hy hbegun (by simpa [*] using hmessage)
  | finish n ending =>
      obtain ⟨_, _, _, rfl⟩ := finish?_eq_some (show c.finish? n ending = some d from hd)
      left
      rcases mem_waiting.1 hm with ⟨l, hl, hhas⟩ | ⟨x, hx, hbegun, hmessage⟩
      · exact hlanes l hl hhas
      · exact hdelivered x (List.mem_of_mem_filter hx) hbegun hmessage
  | leave id =>
      obtain ⟨_, _, _, rfl⟩ := leave?_eq_some hd
      left
      rcases mem_waiting.1 hm with ⟨l, hl, hhas⟩ | ⟨x, hx, hbegun, hmessage⟩
      · exact hlanes l (List.mem_of_mem_filter hl) hhas
      · exact hdelivered x hx hbegun hmessage
  | close =>
      cases hd
      left
      cases hclosed : c.closed with
      | true =>
          rw [close_of_closed hclosed] at hm
          exact hm
      | false =>
          rw [close_of_open hclosed] at hm
          rcases mem_waiting.1 hm with ⟨l, hl, hhas⟩ | ⟨x, hx, hbegun, hmessage⟩
          · obtain ⟨k, hk, rfl⟩ := List.mem_map.1 hl
            exact hlanes k hk hhas
          · exact hdelivered x hx hbegun hmessage
  | cancel =>
      obtain ⟨_, rfl⟩ : c.closed = true ∧ c.cancel = d := by simpa [Channel.after?] using hd
      exact .inl hm

/-- So it is along a run. -/
theorem mem_waiting_run? (hd : c.run? es = some d) (hm : m ∈ d.waiting) :
    m ∈ c.waiting ∨ .send m ∈ es := by
  induction es generalizing c with
  | nil =>
      cases hd
      exact .inl hm
  | cons e es ih =>
      obtain ⟨b, hb, hrun⟩ := run?_cons.1 hd
      rcases ih hrun with hwaits | hsent
      · rcases mem_waiting_after? hb hwaits with hwaits | rfl
        · exact .inl hwaits
        · exact .inr List.mem_cons_self
      · exact .inr (List.mem_cons_of_mem _ hsent)

end Channel

end Switchboard
