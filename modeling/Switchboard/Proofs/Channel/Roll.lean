/-
# Switchboard.Proofs.Channel.Roll -- who is subscribed, by the calls alone

`Roll` reads off the calls of a history alone who is subscribed and which messages are meant for
whom; it knows nothing of lanes, permits and deliveries. `Roll.mem_members_of` puts the first in
words. A channel knows the same of its subscribers, at every moment (`Sound.roll_run?`), and
accepts a message just when there is somebody for whom it is meant.
-/

import Mathlib.Data.List.Induction
import Switchboard.Proofs.Channel.Sound

namespace Switchboard

namespace Channel

variable {μ : Type}

/-! ## Calls -/

/-- What the calls say about the subscribers of a channel. -/
structure Roll where
  /-- The numbers of those who are subscribed, in the order in which they came. -/
  members : List Nat := []
  /-- The number that the next one gets. -/
  nextId : Nat := 1
  /-- Whether the channel was shut down. -/
  closed : Bool := false
deriving DecidableEq, Repr

namespace Roll

/-- The roll after an event. Nobody joins a channel that was shut down, and a shutdown strikes off
everybody. -/
def after (r : Roll) : Event μ → Roll
  | .subscribe =>
    { r with
      members := if r.closed then r.members else r.members ++ [r.nextId]
      nextId := r.nextId + 1 }
  | .unsubscribe id => { r with members := r.members.filter (· ≠ id) }
  | .close => { r with members := [], closed := true }
  | _ => r

/-- The roll after some events. -/
def afterAll (r : Roll) (es : List (Event μ)) : Roll := es.foldl after r

/-- The roll of a new channel after some events. -/
def of (es : List (Event μ)) : Roll := ({} : Roll).afterAll es

/-- What an event brings for a subscriber: the message that is sent, if it is subscribed then. -/
def brings (r : Roll) (id : Nat) : Event μ → List μ
  | .send m => if id ∈ r.members then [m] else []
  | _ => []

/-- The messages that were sent while a subscriber was subscribed, in order. -/
def meantFor (id : Nat) (r : Roll) : List (Event μ) → List μ
  | [] => []
  | e :: es => r.brings id e ++ meantFor id (r.after e) es

/-- What an event brings for the channel: the message that is sent, if anybody is subscribed. -/
def takes (r : Roll) : Event μ → List μ
  | .send m => if r.members = [] then [] else [m]
  | _ => []

/-- The messages that were sent while anybody was subscribed, in order. -/
def accepted (r : Roll) : List (Event μ) → List μ
  | [] => []
  | e :: es => r.takes e ++ accepted (r.after e) es

end Roll

variable {c d : Channel μ} {e : Event μ} {es fs : List (Event μ)} {id : Nat} {m : μ}

namespace Roll

/-! ## Who is subscribed -/

theorem of_append (es fs : List (Event μ)) : of (es ++ fs) = (of es).afterAll fs :=
  List.foldl_append

theorem of_concat (es : List (Event μ)) (e : Event μ) : of (es ++ [e]) = (of es).after e :=
  of_append es [e]

theorem closed_of : (of es).closed = true ↔ .close ∈ es := by
  induction es using List.reverseRecOn with
  | nil => simp [of, afterAll]
  | append_singleton es e ih =>
      rw [of_concat, List.mem_append, List.mem_singleton, ← ih]
      cases e <;> simp [after]

theorem members_of_close (h : .close ∈ es) : (of es).members = [] := by
  induction es using List.reverseRecOn with
  | nil => cases h
  | append_singleton es e ih =>
      rw [of_concat]
      by_cases hes : .close ∈ es
      · cases e <;> simp [after, ih hes, closed_of.2 hes]
      · have he : e = .close := by
          rcases List.mem_append.1 h with h | h
          · exact absurd h hes
          · exact (List.mem_singleton.1 h).symm
        rw [he]
        rfl

/-- A numbered subscriber joined at some point of a history and has not left since. -/
def Joined (es : List (Event μ)) (id : Nat) : Prop :=
  ∃ before since, es = before ++ .subscribe :: since ∧ (of before).nextId = id ∧
    .unsubscribe id ∉ since

theorem joined_concat_subscribe :
    Joined (es ++ [.subscribe]) id ↔ (of es).nextId = id ∨ Joined es id := by
  constructor
  · rintro ⟨before, since, heq, hid, hout⟩
    rcases List.eq_nil_or_concat since with rfl | ⟨since, e, rfl⟩
    · have h := List.append_inj_left' heq rfl
      exact .inl (h ▸ hid)
    · rw [List.concat_eq_append, ← List.cons_append, ← List.append_assoc] at heq
      have h := List.append_inj_left' heq rfl
      exact .inr ⟨before, since, h, hid, fun hin => hout (by simp [hin])⟩
  · rintro (hid | ⟨before, since, rfl, hid, hout⟩)
    · exact ⟨es, [], rfl, hid, by simp⟩
    · exact ⟨before, since ++ [.subscribe], by simp, hid, by simpa using hout⟩

theorem joined_concat (he : e ≠ .subscribe) :
    Joined (es ++ [e]) id ↔ Joined es id ∧ e ≠ .unsubscribe id := by
  constructor
  · rintro ⟨before, since, heq, hid, hout⟩
    rcases List.eq_nil_or_concat since with rfl | ⟨since, e', rfl⟩
    · exact absurd (List.singleton_inj.1 (List.append_inj_right' heq rfl)) he
    · rw [List.concat_eq_append, ← List.cons_append, ← List.append_assoc] at heq
      have hes := List.append_inj_left' heq rfl
      have hlast : e = e' := List.singleton_inj.1 (List.append_inj_right' heq rfl)
      refine ⟨⟨before, since, hes, hid, fun hin => hout (by simp [hin])⟩, ?_⟩
      intro hleft
      exact hout (by simp [← hlast, hleft])
  · rintro ⟨⟨before, since, rfl, hid, hout⟩, hleft⟩
    exact ⟨before, since ++ [e], by simp, hid, by simpa using ⟨hout, hleft.symm⟩⟩

/-- Those are subscribed who joined and have not left, unless the channel was shut down. -/
theorem mem_members_of : id ∈ (of es).members ↔ .close ∉ es ∧ Joined es id := by
  by_cases hclose : .close ∈ es
  · simp [members_of_close hclose, hclose]
  -- Who is subscribed now depends on the last event, so the history is taken apart from its end.
  induction es using List.reverseRecOn with
  | nil => simp [of, afterAll, Joined]
  | append_singleton es e ih =>
      have hes : .close ∉ es := fun hin => hclose (List.mem_append_left _ hin)
      have hopen : (of es).closed = false := by
        by_contra hc
        exact hes (closed_of.1 (by simpa using hc))
      have ih := ih hes
      rw [of_concat]
      by_cases he : e = .subscribe
      · subst he
        rw [joined_concat_subscribe]
        simp only [after, hopen, Bool.false_eq_true, if_false, List.mem_append,
          List.mem_singleton, ih, eq_comm (a := id)]
        simp [hes, or_comm]
      · rw [joined_concat he]
        cases e with
        | subscribe => exact absurd rfl he
        | unsubscribe i =>
            simp only [after, List.mem_filter, ih]
            simp [hes, eq_comm (a := i)]
        | close => exact absurd (List.mem_append_right _ (List.mem_singleton_self _)) hclose
        | _ => exact ih.trans (by simp [hes])

/-- Nothing but a shutdown closes a channel, and nothing opens it again. -/
theorem closed_afterAll (r : Roll) :
    (r.afterAll es).closed = true ↔ r.closed = true ∨ .close ∈ es := by
  induction es generalizing r with
  | nil => simp [afterAll]
  | cons e es ih =>
      show ((r.after e).afterAll es).closed = true ↔ _
      rw [ih]
      cases e <;> simp [after]

/-- Who is subscribed stays so until it leaves or the channel is shut down. -/
theorem mem_members_afterAll {r : Roll} (hid : id ∈ r.members) (hstay : .unsubscribe id ∉ es)
    (hopen : .close ∉ es) : id ∈ (r.afterAll es).members := by
  induction es generalizing r with
  | nil => exact hid
  | cons e es ih =>
      refine ih (r := r.after e) ?_ (fun h => hstay (List.mem_cons_of_mem _ h))
        (fun h => hopen (List.mem_cons_of_mem _ h))
      cases e with
      | subscribe =>
          show id ∈ (if r.closed then r.members else r.members ++ [r.nextId])
          split
          · exact hid
          · exact List.mem_append_left _ hid
      | unsubscribe i =>
          refine List.mem_filter.2 ⟨hid, ?_⟩
          have hne : id ≠ i := by
            rintro rfl
            exact hstay List.mem_cons_self
          simpa using hne
      | close => exact absurd List.mem_cons_self hopen
      | _ => exact hid

/-! ## What is meant for whom -/

/-- All that is sent at once is meant for those who are subscribed. -/
theorem meantFor_map_send {r : Roll} (hid : id ∈ r.members) (ms : List μ) :
    r.meantFor id (ms.map .send) = ms := by
  induction ms with
  | nil => rfl
  | cons m ms ih =>
      show r.brings id (.send m) ++ r.meantFor id (ms.map .send) = m :: ms
      rw [ih]
      simp [brings, hid]

/-- What is meant for somebody in a longer history. -/
theorem meantFor_append (r : Roll) (es fs : List (Event μ)) :
    r.meantFor id (es ++ fs) = r.meantFor id es ++ (r.afterAll es).meantFor id fs := by
  induction es generalizing r with
  | nil => rfl
  | cons e es ih =>
      show r.brings id e ++ (r.after e).meantFor id (es ++ fs) = _
      rw [ih, ← List.append_assoc]
      rfl

/-- What is meant for somebody was sent. -/
theorem send_mem_of_meantFor {r : Roll} (h : m ∈ r.meantFor id es) : .send m ∈ es := by
  induction es generalizing r with
  | nil => cases h
  | cons e es ih =>
      rcases List.mem_append.1 h with h | h
      · have he : e = .send m := by
          cases e with
          | send m' =>
              have hm : m ∈ (if id ∈ r.members then [m'] else []) := h
              split at hm
              · rw [List.mem_singleton.1 hm]
              · cases hm
          | _ => cases h
        rw [he]
        exact List.mem_cons_self
      · exact List.mem_cons_of_mem _ (ih h)

/-- Where nothing is sent, nothing is meant for anybody. -/
theorem meantFor_eq_nil_of_no_send {r : Roll} (h : ∀ m : μ, .send m ∉ es) :
    r.meantFor id es = [] :=
  List.eq_nil_iff_forall_not_mem.2 fun m hm => h m (send_mem_of_meantFor hm)

theorem lt_nextId_after {r : Roll} (hlt : id < r.nextId) (e : Event μ) :
    id < (r.after e).nextId := by
  cases e with
  | subscribe => exact Nat.lt_succ_of_lt hlt
  | _ => exact hlt

/-- While nobody joins, nothing is meant for those who are not subscribed; and who has left does not
come back, for no number is given twice. -/
theorem meantFor_eq_nil {r : Roll} (hid : id ∉ r.members)
    (hgone : id < r.nextId ∨ .subscribe ∉ es) : r.meantFor id es = [] := by
  induction es generalizing r with
  | nil => rfl
  | cons e es ih =>
      have hnone : r.brings id e = [] := by
        cases e with
        | send m => exact if_neg hid
        | _ => rfl
      have hout : id ∉ (r.after e).members := by
        cases e with
        | subscribe =>
            have hlt : id < r.nextId := hgone.resolve_right fun h => h List.mem_cons_self
            show id ∉ (if r.closed then r.members else r.members ++ [r.nextId])
            split
            · exact hid
            · simp [hid, Nat.ne_of_lt hlt]
        | unsubscribe i => exact fun hin => hid (List.mem_filter.1 hin).1
        | close => exact nofun
        | _ => exact hid
      show r.brings id e ++ (r.after e).meantFor id es = []
      rw [hnone, ih hout (hgone.imp (lt_nextId_after · e) (mt (List.mem_cons_of_mem _)))]
      rfl

/-- What is meant for somebody is among what was accepted, in the same order. -/
theorem meantFor_sublist (r : Roll) : (r.meantFor id es).Sublist (r.accepted es) := by
  induction es generalizing r with
  | nil => exact List.Sublist.refl _
  | cons e es ih =>
      refine List.Sublist.append ?_ (ih _)
      cases e with
      | send m =>
          by_cases hid : id ∈ r.members
          · have hne : r.members ≠ [] := List.ne_nil_of_mem hid
            simp [brings, takes, hid, hne]
          · simp [brings, hid]
      | _ => exact List.nil_sublist _

/-- What an event brings for a subscriber is what it brings for the channel. -/
theorem brings_eq_takes {r : Roll} (hid : id ∈ r.members) (e : Event μ) :
    r.brings id e = r.takes e := by
  cases e with
  | send m => simp [brings, takes, hid, List.ne_nil_of_mem hid]
  | _ => rfl

/-- What is meant for a subscriber is all that is accepted until it leaves. -/
theorem meantFor_isPrefix {r : Roll} (hid : id ∈ r.members) (hlt : id < r.nextId) :
    r.meantFor id es <+: r.accepted es := by
  induction es generalizing r with
  | nil => exact List.prefix_refl _
  | cons e es ih =>
      show r.brings id e ++ (r.after e).meantFor id es <+: r.takes e ++ (r.after e).accepted es
      rw [brings_eq_takes hid, List.prefix_append_right_inj]
      by_cases hstays : id ∈ (r.after e).members
      · exact ih hstays (lt_nextId_after hlt e)
      · rw [meantFor_eq_nil hstays (.inl (lt_nextId_after hlt e))]
        exact List.nil_prefix

/-- A channel that was shut down accepts nothing. -/
theorem accepted_eq_nil_of_closed {r : Roll} (hc : r.closed = true) (hnil : r.members = []) :
    r.accepted es = [] := by
  induction es generalizing r with
  | nil => rfl
  | cons e es ih =>
      have hnone : r.takes e = [] := by
        cases e with
        | send m => exact if_pos hnil
        | _ => rfl
      have hstep : (r.after e).closed = true ∧ (r.after e).members = [] := by
        cases e with
        | subscribe => exact ⟨hc, by simp [after, hc, hnil]⟩
        | unsubscribe i => exact ⟨hc, by simp [after, hnil]⟩
        | close => exact ⟨rfl, rfl⟩
        | _ => exact ⟨hc, hnil⟩
      show r.takes e ++ (r.after e).accepted es = []
      rw [hnone, ih hstep.1 hstep.2]
      rfl

/-- What is meant for a subscriber that stays is all that is accepted. -/
theorem meantFor_eq_accepted {r : Roll} (hid : id ∈ r.members) (hstay : .unsubscribe id ∉ es) :
    r.meantFor id es = r.accepted es := by
  induction es generalizing r with
  | nil => rfl
  | cons e es ih =>
      show r.brings id e ++ (r.after e).meantFor id es = r.takes e ++ (r.after e).accepted es
      rw [brings_eq_takes hid]
      congr 1
      by_cases hclose : e = .close
      · -- From here on nothing is accepted, so nothing is meant for anybody.
        subst hclose
        have hnone : (r.after (.close : Event μ)).accepted es = [] :=
          accepted_eq_nil_of_closed rfl rfl
        have hsub : ((r.after (.close : Event μ)).meantFor id es).Sublist _ := meantFor_sublist _
        rw [hnone] at hsub ⊢
        exact List.sublist_nil.1 hsub
      · have hstays : id ∈ (r.afterAll [e]).members := by
          refine mem_members_afterAll hid ?_ ?_
          · exact fun hin => hstay (List.mem_singleton.1 hin ▸ List.mem_cons_self)
          · exact fun hin => hclose (List.mem_singleton.1 hin).symm
        exact ih hstays fun hin => hstay (List.mem_cons_of_mem _ hin)

theorem accepted_append (r : Roll) (es fs : List (Event μ)) :
    r.accepted (es ++ fs) = r.accepted es ++ (r.afterAll es).accepted fs := by
  induction es generalizing r with
  | nil => rfl
  | cons e es ih =>
      show r.takes e ++ (r.after e).accepted (es ++ fs) = _
      rw [ih, ← List.append_assoc]
      rfl

/-- All that is sent at once is accepted, or nothing. -/
theorem accepted_map_send (r : Roll) (ms : List μ) :
    r.accepted (ms.map .send) = if r.members = [] then [] else ms := by
  induction ms with
  | nil => simp [accepted]
  | cons m ms ih =>
      show r.takes (.send m) ++ r.accepted (ms.map .send) = _
      rw [ih]
      by_cases hnil : r.members = [] <;> simp [takes, hnil]

/-- What is accepted was sent. -/
theorem send_mem_of_accepted {r : Roll} (h : m ∈ r.accepted es) : .send m ∈ es := by
  induction es generalizing r with
  | nil => cases h
  | cons e es ih =>
      rcases List.mem_append.1 h with h | h
      · have he : e = .send m := by
          cases e with
          | send m' =>
              have hm : m ∈ (if r.members = [] then [] else [m']) := h
              split at hm
              · cases hm
              · rw [List.mem_singleton.1 hm]
          | _ => cases h
        rw [he]
        exact List.mem_cons_self
      · exact List.mem_cons_of_mem _ (ih h)

end Roll

/-! ## What the channel knows -/

/-- The subscribers of a channel. -/
def members (c : Channel μ) : List Nat := (c.lanes.filter Lane.subscribed).map Lane.id

/-- What a channel knows of its subscribers. -/
def roll (c : Channel μ) : Roll := ⟨c.members, c.nextId, c.closed⟩

/-- Changes of lanes that keep their numbers and subscriptions do not change the subscribers. -/
theorem members_map (f : Lane μ → Lane μ) (hid : ∀ l, (f l).id = l.id)
    (hsub : ∀ l, (f l).subscribed = l.subscribed) (ls : List (Lane μ)) :
    ((ls.map f).filter Lane.subscribed).map Lane.id =
      (ls.filter Lane.subscribed).map Lane.id := by
  induction ls with
  | nil => rfl
  | cons l ls ih => cases hl : l.subscribed <;> simp [hsub, hid, hl, ih]

theorem members_mapLane (id : Nat) (f : Lane μ → Lane μ) (hid : ∀ l, (f l).id = l.id)
    (hsub : ∀ l, (f l).subscribed = l.subscribed) : (c.mapLane id f).members = c.members :=
  members_map _ (fun l => by split <;> simp [hid]) (fun l => by split <;> simp [hsub]) c.lanes

/-- Ending the subscription of one lane strikes off that one. -/
theorem members_detach (id : Nat) (ls : List (Lane μ)) :
    ((ls.map fun l => if l.id = id then l.detach else l).filter Lane.subscribed).map Lane.id =
      ((ls.filter Lane.subscribed).map Lane.id).filter (· ≠ id) := by
  induction ls with
  | nil => rfl
  | cons l ls ih =>
      by_cases hid : l.id = id
      · cases hl : l.subscribed <;> simpa [hid, hl, Lane.detach] using ih
      · cases hl : l.subscribed <;> simpa [hid, hl] using ih

theorem members_detach_all (ls : List (Lane μ)) :
    ((ls.map Lane.detach).filter Lane.subscribed).map Lane.id = [] := by
  induction ls with
  | nil => rfl
  | cons l ls ih => simp [Lane.detach]

theorem members_of_detached (h : ∀ l ∈ c.lanes, l.subscribed = false) : c.members = [] := by
  have hnil : c.lanes.filter Lane.subscribed = [] :=
    List.filter_eq_nil_iff.2 fun l hl => by simp [h l hl]
  simp [members, hnil]

namespace Sound

theorem members_of_closed (h : c.Sound) (hc : c.closed = true) : c.members = [] :=
  members_of_detached (h.detached hc)

/-- Somebody is subscribed just when the lane with that number takes messages. -/
theorem mem_members_iff (h : c.Sound) :
    id ∈ c.members ↔ ∃ l, c.lane? id = some l ∧ l.subscribed = true := by
  constructor
  · intro hid
    obtain ⟨l, hl, rfl⟩ := List.mem_map.1 hid
    obtain ⟨hl, hsub⟩ := List.mem_filter.1 hl
    exact ⟨l, h.lane?_of_mem hl, hsub⟩
  · rintro ⟨l, hl, hsub⟩
    exact List.mem_map.2 ⟨l, List.mem_filter.2 ⟨mem_of_lane? hl, hsub⟩, id_of_lane? hl⟩

/-- The numbers of those who are subscribed have been given out. -/
theorem lt_nextId_of_mem_members (h : c.Sound) (hid : id ∈ c.members) : id < c.nextId := by
  obtain ⟨l, hl, _⟩ := h.mem_members_iff.1 hid
  have hlt := h.ids_lt l (mem_of_lane? hl)
  rwa [id_of_lane? hl] at hlt

/-- A message is accepted just when somebody is subscribed. -/
theorem accepts_iff (h : c.Sound) : c.accepts = true ↔ c.members ≠ [] := by
  have hany : c.lanes.any Lane.subscribed = true ↔ c.members ≠ [] := by
    simp [members]
  unfold accepts
  cases hc : c.closed with
  | true => simp [h.members_of_closed hc]
  | false => simpa using hany

/-- A lane that goes away belongs to nobody who is subscribed. -/
theorem members_leave? (h : c.Sound) (hd : c.leave? id = some d) : d.members = c.members := by
  obtain ⟨l, hl, hgone, rfl⟩ := leave?_eq_some hd
  have hsub : l.subscribed = false := by
    rcases hgone with ⟨hc, _⟩ | hs
    · exact h.detached (h.closed_of_cancelled hc) l (mem_of_lane? hl)
    · exact (Lane.isSpent_iff.1 hs).1
  -- Lanes are told apart by their numbers, so no lane of a subscriber goes away with it.
  have hkeep : ∀ k ∈ c.lanes, k.subscribed = true → k.id ≠ id := by
    intro k hk hks hid
    have hkl := h.lane?_of_mem hk
    rw [hid, hl] at hkl
    cases hkl
    rw [hsub] at hks
    cases hks
  show ((c.lanes.filter fun k => k.id ≠ id).filter Lane.subscribed).map Lane.id = c.members
  rw [List.filter_filter]
  unfold members
  congr 1
  refine List.filter_congr fun k hk => ?_
  cases hks : k.subscribed with
  | false => rfl
  | true => simpa using hkeep k hk hks

/-- The channel and the roll agree after every event. -/
theorem roll_after? (h : c.Sound) (hd : c.after? e = some d) : d.roll = c.roll.after e := by
  cases e with
  | send m =>
      cases hd
      cases hacc : c.accepts with
      | false => rw [send_of_not_accepts hacc]; rfl
      | true =>
          rw [send_of_accepts hacc]
          have hm := members_map (·.push m) (fun l => (push_fields l m).1)
            (fun l => (push_fields l m).2.1) c.lanes
          exact congrArg (Roll.mk · c.nextId c.closed) hm
  | subscribe =>
      cases hd
      by_cases hc : c.closed = true
      · rw [subscribe_of_closed hc]
        simp [roll, members, Roll.after, hc]
      · have hopen : c.closed = false := by simpa using hc
        rw [subscribe_of_open hopen]
        simp [roll, members, Roll.after, hopen]
  | unsubscribe id =>
      cases hd
      exact congrArg (Roll.mk · c.nextId c.closed) (members_detach id c.lanes)
  | take id =>
      -- Queues and held messages change from here on, names and subscriptions do not.
      obtain ⟨_, l, m, rest, _, _, _, rfl⟩ := take?_eq_some hd
      have hm := members_mapLane (c := c) id
        (fun l => { l with queue := rest, held := some { message := m } })
        (fun _ => rfl) fun _ => rfl
      exact congrArg (Roll.mk · c.nextId c.closed) hm
  | lineUp id =>
      obtain ⟨_, _, l, _, _, rfl⟩ := lineUp?_eq_some hd
      rfl
  | acquire id =>
      obtain ⟨_, _, l, m, _, _, rfl⟩ := acquire?_eq_some hd
      have hm := members_mapLane (c := c) id
        (fun l => { l with held := some { message := m, permitted := true } })
        (fun _ => rfl) fun _ => rfl
      exact congrArg (Roll.mk · c.nextId c.closed) hm
  | handOver id =>
      obtain ⟨l, m, _, _, rfl⟩ := handOver?_eq_some hd
      have hm := members_mapLane (c := c) id (fun l => { l with held := none })
        (fun _ => rfl) fun _ => rfl
      exact congrArg (Roll.mk · c.nextId c.closed) hm
  | «begin» n =>
      obtain ⟨x, _, _, rfl⟩ := begin?_eq_some hd
      rfl
  | finish n ending =>
      obtain ⟨x, _, _, rfl⟩ := finish?_eq_some (show c.finish? n ending = some d from hd)
      rfl
  | leave id =>
      have hm := h.members_leave? hd
      obtain ⟨l, _, _, rfl⟩ := leave?_eq_some hd
      simp only [roll, Roll.after, hm]
  | close =>
      cases hd
      cases hc : c.closed with
      | true => rw [close_of_closed hc]; simp [roll, Roll.after, hc, h.members_of_closed hc]
      | false =>
          rw [close_of_open hc]
          simp only [roll, members, Roll.after, members_detach_all]
  | cancel =>
      obtain ⟨_, rfl⟩ : c.closed = true ∧ c.cancel = d := by simpa [Channel.after?] using hd
      rfl

/-- The channel and the roll agree after every run. -/
theorem roll_run? (h : c.Sound) (hd : c.run? es = some d) : d.roll = c.roll.afterAll es := by
  induction es generalizing c with
  | nil => cases hd; rfl
  | cons e es ih =>
      obtain ⟨b, hb, hrun⟩ := run?_cons.1 hd
      rw [ih (h.after? hb) hrun, h.roll_after? hb]
      rfl

/-- A channel is closed by a shutdown and by nothing else. -/
theorem closed_run? (h : c.Sound) (hd : c.run? es = some d) :
    d.closed = true ↔ c.closed = true ∨ .close ∈ es := by
  have hroll := congrArg Roll.closed (h.roll_run? hd)
  rw [show d.closed = _ from hroll, Roll.closed_afterAll]
  rfl

/-- Who is subscribed to an open channel stays so as long as the channel is open, unless it
leaves. -/
theorem member_run? (h : c.Sound) (hd : c.run? es = some d)
    (hid : c.closed = false → id ∈ c.members) (hstay : .unsubscribe id ∉ es)
    (hopen : d.closed = false) : id ∈ d.members := by
  have hnot : ¬(c.closed = true ∨ .close ∈ es) := by
    rw [← h.closed_run? hd, hopen]
    exact nofun
  have hroll : d.members = (c.roll.afterAll es).members :=
    congrArg Roll.members (h.roll_run? hd)
  rw [hroll]
  refine Roll.mem_members_afterAll ?_ hstay fun hclose => hnot (.inr hclose)
  exact hid (by simpa using fun hc => hnot (.inl hc))

end Sound

end Channel

end Switchboard
