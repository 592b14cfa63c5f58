/-
# Switchboard.Proofs.Channel.Sound -- what every event of a channel keeps

`Channel.Sound` is the invariant of the machine: lanes and deliveries are told apart by their
numbers, only lanes that wait for a permit stand in line, every permit is free, with a lane or
with a delivery, and nobody is subscribed to a closed channel. `Sound.after?` is the step,
`Sound.run?` the run.

Each partial operation has one lemma that says everything it does (`take?_eq_some` and so on), and
`lane?` is the view of the lanes through which they are compared. Nothing else opens the operations.
-/

import Mathlib.Data.List.Nodup
import Switchboard.Channel.Basic

namespace Switchboard

/-! ## Lists whose members are told apart by a key -/

/-- Of members with different keys, leaving out one key leaves out one member. -/
theorem perm_cons_filter_key {α κ : Type} [DecidableEq κ] (key : α → κ) {xs : List α} {x : α}
    (hn : (xs.map key).Nodup) (hx : x ∈ xs) :
    xs.Perm (x :: xs.filter fun y => key y ≠ key x) := by
  induction xs with
  | nil => cases hx
  | cons y ys ih =>
      have hy : key y ∉ ys.map key ∧ (ys.map key).Nodup := by simpa using hn
      rcases List.mem_cons.1 hx with rfl | hx
      · have hrest : ys.filter (fun z => key z ≠ key x) = ys := by
          refine List.filter_eq_self.2 fun z hz => ?_
          have hne : key z ≠ key x := fun heq => hy.1 (heq ▸ List.mem_map_of_mem hz)
          simpa using hne
        have hdrop : (x :: ys).filter (fun z => key z ≠ key x) = ys := by
          rw [List.filter_cons_of_neg (by simp), hrest]
        rw [hdrop]
      · have hne : key y ≠ key x := fun heq => hy.1 (heq ▸ List.mem_map_of_mem hx)
        have hrest : (y :: ys).filter (fun z => key z ≠ key x) =
            y :: ys.filter fun z => key z ≠ key x := by simp [hne]
        rw [hrest]
        exact ((ih hy.2 hx).cons y).trans (List.Perm.swap x y _)

/-- Of members with different keys, looking for the key of a member finds that member. -/
theorem find?_key {α κ : Type} [DecidableEq κ] (key : α → κ) {xs : List α} {x : α}
    (hn : (xs.map key).Nodup) (hx : x ∈ xs) : xs.find? (fun y => key y = key x) = some x := by
  induction xs with
  | nil => cases hx
  | cons y ys ih =>
      have hy : key y ∉ ys.map key ∧ (ys.map key).Nodup := by simpa using hn
      rcases List.mem_cons.1 hx with rfl | hx
      · simp
      · have hne : key y ≠ key x := fun heq => hy.1 (heq ▸ List.mem_map_of_mem hx)
        rw [List.find?_cons_of_neg (by simpa using hne)]
        exact ih hy.2 hx

/-- Changing the member with a key changes the number of members with a property by what becomes of
that member. -/
theorem countP_map_key {α κ : Type} [DecidableEq κ] (key : α → κ) (p : α → Bool) (f : α → α)
    {xs : List α} {x : α} (hn : (xs.map key).Nodup) (hx : x ∈ xs) :
    (xs.map fun y => if key y = key x then f y else y).countP p + (if p x then 1 else 0) =
      xs.countP p + if p (f x) then 1 else 0 := by
  induction xs with
  | nil => cases hx
  | cons y ys ih =>
      have hy : key y ∉ ys.map key ∧ (ys.map key).Nodup := by simpa using hn
      rw [List.map_cons, List.countP_cons, List.countP_cons]
      rcases List.mem_cons.1 hx with rfl | hx
      · have hrest : ys.map (fun z => if key z = key x then f z else z) = ys := by
          refine (List.map_congr_left fun z hz => if_neg fun heq => ?_).trans (List.map_id ys)
          exact hy.1 (heq ▸ List.mem_map_of_mem hz)
        rw [hrest, if_pos rfl]
        omega
      · have hne : key y ≠ key x := fun heq => hy.1 (heq ▸ List.mem_map_of_mem hx)
        have hlaw := ih hy.2 hx
        rw [if_neg hne]
        omega

/-! ## What lanes hold -/

namespace Lane

variable {μ : Type}

/-- The messages that are not handed over yet: the one that it holds and those in the queue. -/
def pending (l : Lane μ) : List μ := (l.held.map Taken.message).toList ++ l.queue

/-- The message for which it has a permit. -/
def granted? (l : Lane μ) : Option μ :=
  match l.held with
  | some { message := m, permitted := true } => some m
  | _ => none

@[simp] theorem isWaiting_detach (l : Lane μ) : l.detach.isWaiting = l.isWaiting := rfl

@[simp] theorem pending_detach (l : Lane μ) : l.detach.pending = l.pending := rfl

@[simp] theorem granted?_detach (l : Lane μ) : l.detach.granted? = l.granted? := rfl

theorem granted?_eq_none {l : Lane μ} (h : l.isPermitted = false) : l.granted? = none := by
  obtain ⟨i, s, queue, _ | ⟨m, permitted⟩⟩ := l
  · rfl
  · have hno : permitted = false := h
    rw [hno]
    rfl

theorem granted?_eq_some {l : Lane μ} {m : μ} (h : l.granted? = some m) :
    l.held = some { message := m, permitted := true } := by
  obtain ⟨i, s, queue, _ | ⟨m', permitted⟩⟩ := l
  · cases h
  · cases permitted with
    | false => cases h
    | true =>
        cases h
        rfl

/-- A message with a permit is the first of those that are not handed over yet. -/
theorem granted?_isPrefix (l : Lane μ) : l.granted?.toList <+: l.pending := by
  obtain ⟨i, s, queue, _ | ⟨m, permitted⟩⟩ := l
  · exact List.nil_prefix
  · cases permitted with
    | false => exact List.nil_prefix
    | true => exact List.prefix_append [m] queue

/-- A lane that has nothing more to do holds nothing, and nothing is in its queue. -/
theorem isSpent_iff {l : Lane μ} :
    l.isSpent = true ↔ l.subscribed = false ∧ l.queue = [] ∧ l.held = none := by
  simp [isSpent, and_assoc]

end Lane

namespace Channel

variable {μ : Type} {c d : Channel μ} {id n : Nat}

/-! ## What the partial operations do -/

theorem take?_eq_some (h : c.take? id = some d) :
    c.cancelled = false ∧ ∃ l m rest, c.lane? id = some l ∧ l.queue = m :: rest ∧ l.held = none ∧
      d = c.mapLane id fun l => { l with queue := rest, held := some { message := m } } := by
  unfold take? at h
  split at h
  · cases h
  · next hc =>
      split at h
      · next subscribed m rest hl =>
          cases h
          exact ⟨by simpa using hc, _, m, rest, hl, rfl, rfl, rfl⟩
      · cases h

theorem lineUp?_eq_some (h : c.lineUp? id = some d) :
    c.cancelled = false ∧ id ∉ c.line ∧ ∃ l, c.lane? id = some l ∧ l.isWaiting = true ∧
      d = { c with line := c.line ++ [id] } := by
  unfold lineUp? at h
  split at h
  · cases h
  · next hc =>
      have hout : c.cancelled = false ∧ id ∉ c.line := by simpa using hc
      split at h
      · next l hl =>
          split at h
          · next hwaits =>
              cases h
              exact ⟨hout.1, hout.2, l, hl, hwaits, rfl⟩
          · cases h
      · cases h

theorem acquire?_eq_some (h : c.acquire? id = some d) :
    c.cancelled = false ∧ c.isGranted id = true ∧ ∃ l m, c.lane? id = some l ∧
      l.held = some { message := m } ∧
      d = { c with
        lanes := (c.mapLane id fun l =>
          { l with held := some { message := m, permitted := true } }).lanes
        free := c.free - 1
        line := c.line.erase id } := by
  unfold acquire? at h
  split at h
  · cases h
  · next hc =>
      split at h
      · next subscribed queue m hl =>
          cases h
          have hg : c.cancelled = false ∧ c.isGranted id = true := by simpa using hc
          exact ⟨hg.1, hg.2, _, m, hl, rfl, rfl⟩
      · cases h

theorem handOver?_eq_some (h : c.handOver? id = some d) :
    ∃ l m, c.lane? id = some l ∧ l.held = some { message := m, permitted := true } ∧
      d = { c with
        lanes := (c.mapLane id fun l => { l with held := none }).lanes
        running := c.running ++ [{ number := c.started, lane := id, message := m }]
        started := c.started + 1 } := by
  unfold handOver? at h
  split at h
  · next subscribed queue m hl =>
      cases h
      exact ⟨_, m, hl, rfl, rfl⟩
  · cases h

theorem begin?_eq_some (h : c.begin? n = some d) :
    ∃ x, c.delivery? n = some x ∧ x.begun = false ∧
      d = { c with running := c.running.map fun y =>
        if y.number = n then { y with begun := true } else y } := by
  unfold begin? at h
  split at h
  · next number lane message hx =>
      cases h
      exact ⟨_, hx, rfl, rfl⟩
  · cases h

theorem finish?_eq_some {ending : Ending} (h : c.finish? n ending = some d) :
    ∃ x, c.delivery? n = some x ∧ x.begun = true ∧
      d = { c with
        free := c.free + 1
        running := c.running.filter fun y => y.number ≠ n } := by
  unfold finish? at h
  split at h
  · next number lane message hx =>
      cases h
      exact ⟨_, hx, rfl, rfl⟩
  · cases h

theorem leave?_eq_some (h : c.leave? id = some d) :
    ∃ l, c.lane? id = some l ∧ (c.cancelled = true ∧ l.isPermitted = false ∨ l.isSpent = true) ∧
      d = { c with lanes := c.lanes.filter fun l => l.id ≠ id, line := c.line.erase id } := by
  unfold leave? at h
  split at h
  · next l hl =>
      split at h
      · next hs =>
          cases h
          exact ⟨l, hl, by simpa using hs, rfl⟩
      · cases h
  · cases h

/-! ## The lanes by their numbers -/

theorem id_of_lane? {l : Lane μ} (h : c.lane? id = some l) : l.id = id := by
  simpa using List.find?_some h

theorem mem_of_lane? {l : Lane μ} (h : c.lane? id = some l) : l ∈ c.lanes :=
  List.mem_of_find?_eq_some h

theorem lane?_eq_none : c.lane? id = none ↔ ∀ l ∈ c.lanes, l.id ≠ id := by
  simp [lane?]

theorem number_of_delivery? {x : Delivery μ} (h : c.delivery? n = some x) : x.number = n := by
  simpa using List.find?_some h

theorem mem_of_delivery? {x : Delivery μ} (h : c.delivery? n = some x) : x ∈ c.running :=
  List.mem_of_find?_eq_some h

/-- Looking for a number does not see changes that keep the numbers. -/
theorem find?_map_id (f : Lane μ → Lane μ) (hf : ∀ l, (f l).id = l.id) (ls : List (Lane μ))
    (j : Nat) : (ls.map f).find? (fun l => l.id = j) = (ls.find? fun l => l.id = j).map f := by
  rw [List.find?_map]
  congr 1
  refine congrFun (congrArg List.find? (funext fun l => ?_)) ls
  simp [hf]

@[simp] theorem lane?_mapLane (f : Lane μ → Lane μ) (hf : ∀ l, (f l).id = l.id) (j : Nat) :
    (c.mapLane id f).lane? j = if j = id then (c.lane? j).map f else c.lane? j := by
  have h := find?_map_id (fun l => if l.id = id then f l else l)
    (fun l => by split <;> simp [hf]) c.lanes j
  unfold lane? mapLane
  rw [h]
  cases hl : c.lanes.find? (fun l => l.id = j) with
  | none => simp
  | some l =>
      have hj : l.id = j := id_of_lane? (c := c) hl
      by_cases hji : j = id
      · simp [hj, hji]
      · simp [hj, hji]

theorem lane?_filter_id (id j : Nat) :
    (c.lanes.filter fun l => l.id ≠ id).find? (fun l => l.id = j) =
      if j = id then none else c.lane? j := by
  unfold lane?
  induction c.lanes with
  | nil => simp
  | cons l ls ih =>
      by_cases hl : l.id = id
      · have hdrop : (l :: ls).filter (fun l => l.id ≠ id) = ls.filter fun l => l.id ≠ id := by
          simp [hl]
        rw [hdrop, ih]
        by_cases hj : j = id
        · simp [hj]
        · rw [List.find?_cons_of_neg (by simpa [hl] using Ne.symm hj)]
      · have hkeep : (l :: ls).filter (fun l => l.id ≠ id) =
            l :: ls.filter fun l => l.id ≠ id := by simp [hl]
        rw [hkeep]
        by_cases hj : l.id = j
        · have hne : j ≠ id := fun heq => hl (hj.trans heq)
          rw [List.find?_cons_of_pos (by simpa using hj),
            List.find?_cons_of_pos (by simpa using hj), if_neg hne]
        · rw [List.find?_cons_of_neg (by simpa using hj), ih,
            List.find?_cons_of_neg (by simpa using hj)]

/-- A lane that goes away is not there any more, the others are. -/
theorem lane?_leave? {i : Nat} (hd : c.leave? i = some d) (j : Nat) :
    d.lane? j = if j = i then none else c.lane? j := by
  obtain ⟨_, _, _, rfl⟩ := leave?_eq_some hd
  exact lane?_filter_id i j

/-- Adding a message keeps the rest of a lane. -/
@[simp] theorem push_fields (l : Lane μ) (m : μ) :
    (l.push m).id = l.id ∧ (l.push m).subscribed = l.subscribed ∧ (l.push m).held = l.held := by
  unfold Lane.push
  split <;> exact ⟨rfl, rfl, rfl⟩

@[simp] theorem granted?_push (l : Lane μ) (m : μ) : (l.push m).granted? = l.granted? := by
  simp [Lane.granted?]

theorem send_of_accepts {m : μ} (h : c.accepts = true) :
    (c.send m).2 = { c with lanes := c.lanes.map (·.push m) } := by
  simp [send, h]

theorem send_of_not_accepts {m : μ} (h : c.accepts = false) : (c.send m).2 = c := by
  simp [send, h]

theorem send_fst (c : Channel μ) (m : μ) : (c.send m).1 = c.accepts := by
  unfold send
  split
  · next hacc => exact hacc.symm
  · next hacc => exact (by simpa using hacc : c.accepts = false).symm

/-- Sending does not change whether a channel accepts messages. -/
theorem accepts_send (c : Channel μ) (m : μ) : (c.send m).2.accepts = c.accepts := by
  cases hacc : c.accepts with
  | false => rw [send_of_not_accepts hacc, hacc]
  | true =>
      have hsubscribed : Lane.subscribed ∘ (·.push m) = (Lane.subscribed : Lane μ → Bool) :=
        funext fun l => (push_fields l m).2.1
      rw [send_of_accepts hacc, ← hacc]
      simp only [accepts, List.any_map, hsubscribed]

theorem subscribe_of_open (h : c.closed = false) :
    c.subscribe.2 =
      { c with lanes := c.lanes ++ [{ id := c.nextId }], nextId := c.nextId + 1 } := by
  simp [subscribe, h]

theorem subscribe_of_closed (h : c.closed = true) :
    c.subscribe.2 = { c with nextId := c.nextId + 1 } := by
  simp [subscribe, h]

theorem close_of_open (h : c.closed = false) :
    c.close.2 = { c with closed := true, lanes := c.lanes.map Lane.detach } := by
  simp [close, h]

theorem close_of_closed (h : c.closed = true) : c.close.2 = c := by
  simp [close, h]

/-- Who closes a channel is told whether it was open. -/
theorem close_fst (c : Channel μ) : c.close.1 = !c.closed := by
  unfold close
  cases c.closed <;> rfl

theorem closed_close (c : Channel μ) : c.close.2.closed = true := by
  cases h : c.closed with
  | true => rw [close_of_closed h, h]
  | false => rw [close_of_open h]

theorem lane?_send (m : μ) (j : Nat) :
    (c.send m).2.lane? j = if c.accepts then (c.lane? j).map (·.push m) else c.lane? j := by
  cases h : c.accepts with
  | true =>
      rw [send_of_accepts h]
      exact find?_map_id _ (fun l => (push_fields l m).1) _ _
  | false => rw [send_of_not_accepts h]; rfl

theorem lane?_subscribe (j : Nat) :
    c.subscribe.2.lane? j =
      (c.lane? j).or (if c.closed = false ∧ c.nextId = j then some { id := j } else none) := by
  cases hc : c.closed with
  | true =>
      rw [subscribe_of_closed hc]
      simp [lane?]
  | false =>
      rw [subscribe_of_open hc]
      by_cases hj : c.nextId = j
      · simp [lane?, hj]
      · simp [lane?, hj]

theorem lane?_unsubscribe (id j : Nat) :
    (c.unsubscribe id).2.lane? j = if j = id then (c.lane? j).map Lane.detach else c.lane? j :=
  lane?_mapLane _ (by intro; rfl) j

theorem lane?_close (j : Nat) :
    c.close.2.lane? j = if c.closed then c.lane? j else (c.lane? j).map Lane.detach := by
  cases hc : c.closed with
  | true => rw [close_of_closed hc]; rfl
  | false =>
      rw [close_of_open hc]
      exact find?_map_id Lane.detach (by intro; rfl) _ _

/-! ## The invariant -/

/-- How many lanes have a permit for the message that they hold. -/
def permitted (c : Channel μ) : Nat := c.lanes.countP Lane.isPermitted

/-- What holds of a channel at all times. -/
structure Sound (c : Channel μ) : Prop where
  /-- No two lanes have one number. -/
  ids_nodup : (c.lanes.map Lane.id).Nodup
  /-- The number of the next subscriber is new. -/
  ids_lt : ∀ l ∈ c.lanes, l.id < c.nextId
  /-- No two deliveries have one number. -/
  numbers_nodup : (c.running.map Delivery.number).Nodup
  /-- The number of the next delivery is new. -/
  numbers_lt : ∀ x ∈ c.running, x.number < c.started
  /-- No lane stands in line twice. -/
  line_nodup : c.line.Nodup
  /-- The lanes that stand in line wait for a permit. -/
  waiting_of_line : ∀ id ∈ c.line, ∃ l, c.lane? id = some l ∧ l.isWaiting = true
  /-- Each permit is free, with a lane or with a delivery. -/
  permits : c.free + c.permitted + c.running.length = c.config.permits
  /-- Nobody is subscribed to a closed channel. -/
  detached : c.closed = true → ∀ l ∈ c.lanes, l.subscribed = false
  /-- Only what is closed is given up. -/
  closed_of_cancelled : c.cancelled = true → c.closed = true

theorem sound_new (config : ChannelConfig) : (new config : Channel μ).Sound where
  ids_nodup := List.nodup_nil
  ids_lt := fun _ h => by cases h
  numbers_nodup := List.nodup_nil
  numbers_lt := fun _ h => by cases h
  line_nodup := List.nodup_nil
  waiting_of_line := fun _ h => by cases h
  permits := rfl
  detached := fun _ _ h => by cases h
  closed_of_cancelled := fun h => by cases h

/-- What can be created is a channel without subscribers. -/
theorem eq_new_of_create {config : ChannelConfig} (h : create config = .ok c) : c = new config := by
  unfold create at h
  split at h
  · exact (Except.ok.inj h).symm
  · cases h

namespace Sound

/-- A lane is found by its number. -/
theorem lane?_of_mem (h : c.Sound) {l : Lane μ} (hl : l ∈ c.lanes) : c.lane? l.id = some l :=
  find?_key Lane.id h.ids_nodup hl

/-- A delivery is found by its number. -/
theorem delivery?_of_mem (h : c.Sound) {x : Delivery μ} (hx : x ∈ c.running) :
    c.delivery? x.number = some x :=
  find?_key Delivery.number h.numbers_nodup hx

/-- Changing a lane changes the number of lanes with a permit by what becomes of that lane. -/
theorem permitted_mapLane (h : c.Sound) {l : Lane μ} (hl : c.lane? id = some l)
    (f : Lane μ → Lane μ) :
    (c.mapLane id f).permitted + (if l.isPermitted then 1 else 0) =
      c.permitted + if (f l).isPermitted then 1 else 0 := by
  have hlaw := countP_map_key Lane.id Lane.isPermitted f h.ids_nodup (mem_of_lane? hl)
  rwa [id_of_lane? hl] at hlaw

/-- The number of the next subscriber belongs to no lane. -/
theorem lane?_nextId (h : c.Sound) : c.lane? c.nextId = none :=
  lane?_eq_none.2 fun l hl => Nat.ne_of_lt (h.ids_lt l hl)

/-! ## Steps of the invariant -/

/-- Changes of the lanes that keep their numbers and subscribe nobody. -/
theorem map_lanes (h : c.Sound) (f : Lane μ → Lane μ) (hid : ∀ l, (f l).id = l.id)
    (hsub : ∀ l, (f l).subscribed = true → l.subscribed = true) :
    ((c.lanes.map f).map Lane.id).Nodup ∧ (∀ l ∈ c.lanes.map f, l.id < c.nextId) ∧
      (c.closed = true → ∀ l ∈ c.lanes.map f, l.subscribed = false) := by
  refine ⟨?_, ?_, ?_⟩
  · rw [List.map_map, List.map_congr_left fun l _ => show (Lane.id ∘ f) l = l.id from hid l]
    exact h.ids_nodup
  · intro k hk
    obtain ⟨l, hl, rfl⟩ := List.mem_map.1 hk
    rw [hid]
    exact h.ids_lt l hl
  · intro hc k hk
    obtain ⟨l, hl, rfl⟩ := List.mem_map.1 hk
    have hfalse := h.detached hc l hl
    cases hs : (f l).subscribed with
    | false => rfl
    | true => rw [hsub l hs] at hfalse; cases hfalse

/-- Changes of the lanes that leave alone what they hold take and give no permits. -/
theorem countP_isPermitted_map (f : Lane μ → Lane μ) (hheld : ∀ l, (f l).held = l.held)
    (ls : List (Lane μ)) :
    (ls.map f).countP Lane.isPermitted = ls.countP Lane.isPermitted := by
  rw [List.countP_map]
  refine List.countP_congr fun l _ => ?_
  simp only [Function.comp_apply, Lane.isPermitted, hheld]

/-- Changes of the lanes that keep their numbers and whether they wait leave the line as it is. -/
theorem waiting_of_map (h : c.Sound) (hlane : ∀ j, d.lane? j = c.lane? j ∨
      ∃ f : Lane μ → Lane μ, (∀ l, (f l).isWaiting = l.isWaiting) ∧
        d.lane? j = (c.lane? j).map f) :
    ∀ j ∈ c.line, ∃ l, d.lane? j = some l ∧ l.isWaiting = true := by
  intro j hj
  obtain ⟨l, hl, hwaits⟩ := h.waiting_of_line j hj
  rcases hlane j with hsame | ⟨f, hf, hmap⟩
  · exact ⟨l, hsame.trans hl, hwaits⟩
  · exact ⟨f l, by rw [hmap, hl]; rfl, by rw [hf, hwaits]⟩

/-- Whatever becomes of one lane, the others in line still wait. -/
theorem waiting_of_others (h : c.Sound) (id : Nat) {line : List Nat}
    (hline : ∀ j ∈ line, j ∈ c.line ∧ j ≠ id) (hlane : ∀ j, j ≠ id → d.lane? j = c.lane? j) :
    ∀ j ∈ line, ∃ l, d.lane? j = some l ∧ l.isWaiting = true := by
  intro j hj
  obtain ⟨hmem, hne⟩ := hline j hj
  rw [hlane j hne]
  exact h.waiting_of_line j hmem

/-- A lane that does not wait for a permit is not in line. -/
theorem not_mem_line (h : c.Sound) {l : Lane μ} (hl : c.lane? id = some l)
    (hwaits : l.isWaiting = false) : id ∉ c.line := by
  intro hmem
  obtain ⟨k, hk, hwaiting⟩ := h.waiting_of_line id hmem
  rw [hl] at hk
  cases hk
  rw [hwaits] at hwaiting
  cases hwaiting

theorem take? (h : c.Sound) (hd : c.take? id = some d) : d.Sound := by
  obtain ⟨_, l, m, rest, hl, _, hheld, rfl⟩ := take?_eq_some hd
  obtain ⟨hnodup, hlt, hdet⟩ := h.map_lanes
    (fun l => if l.id = id then { l with queue := rest, held := some { message := m } } else l)
    (fun l => by split <;> rfl) (fun l => by split <;> exact fun hs => hs)
  refine { h with
    ids_nodup := hnodup, ids_lt := hlt, detached := hdet, waiting_of_line := ?_, permits := ?_ }
  · -- The lane is not in line yet, for it held nothing.
    have hout := h.not_mem_line hl (by simp [Lane.isWaiting, hheld])
    refine h.waiting_of_others id (fun j hj => ⟨hj, ne_of_mem_of_not_mem hj hout⟩) ?_
    intro j hj
    rw [lane?_mapLane _ (by intro; rfl), if_neg hj]
  · have hcount := h.permitted_mapLane hl fun l =>
      { l with queue := rest, held := some { message := m } }
    have hp := h.permits
    simp only [Lane.isPermitted, hheld, Option.any_none, Option.any_some, Bool.false_eq_true,
      if_false] at hcount
    show c.free + (c.mapLane id _).permitted + c.running.length = c.config.permits
    omega

theorem lineUp? (h : c.Sound) (hd : c.lineUp? id = some d) : d.Sound := by
  obtain ⟨_, hout, l, hl, hwaits, rfl⟩ := lineUp?_eq_some hd
  refine { h with line_nodup := ?_, waiting_of_line := ?_ }
  · refine List.nodup_append.2 ⟨h.line_nodup, List.nodup_singleton id, fun a ha b hb hab => ?_⟩
    rw [List.mem_singleton.1 hb] at hab
    exact hout (hab ▸ ha)
  · intro j hj
    rcases List.mem_append.1 hj with hj | hj
    · exact h.waiting_of_line j hj
    · rw [List.mem_singleton.1 hj]
      exact ⟨l, hl, hwaits⟩

theorem isGranted_iff : c.isGranted id = true ↔ ∃ i, c.line.idxOf? id = some i ∧ i < c.free := by
  unfold isGranted
  split
  · next i hi => simp [hi]
  · next hi => simp [hi]

/-- Who may take a permit stands in line, and there is a permit. -/
theorem mem_line_of_isGranted (hg : c.isGranted id = true) : id ∈ c.line ∧ 0 < c.free := by
  obtain ⟨i, hi, hlt⟩ := isGranted_iff.1 hg
  have hmem : id ∈ c.line := by
    by_contra hn
    rw [List.idxOf?_eq_none_iff.2 hn] at hi
    cases hi
  exact ⟨hmem, by omega⟩

theorem acquire? (h : c.Sound) (hd : c.acquire? id = some d) : d.Sound := by
  obtain ⟨_, hg, l, m, hl, hheld, rfl⟩ := acquire?_eq_some hd
  obtain ⟨hnodup, hlt, hdet⟩ := h.map_lanes
    (fun l => if l.id = id then { l with held := some { message := m, permitted := true } } else l)
    (fun l => by split <;> rfl) (fun l => by split <;> exact fun hs => hs)
  refine { h with
    ids_nodup := hnodup, ids_lt := hlt, detached := hdet, line_nodup := h.line_nodup.erase id
    waiting_of_line := ?_, permits := ?_ }
  · refine h.waiting_of_others id
      (fun j hj => (h.line_nodup.mem_erase_iff.1 hj).symm) fun j hj => ?_
    exact (lane?_mapLane _ (by intro; rfl) j).trans (if_neg hj)
  · -- The permit that was free is with the lane now.
    have hpos := (mem_line_of_isGranted hg).2
    have hcount := h.permitted_mapLane hl fun l =>
      { l with held := some { message := m, permitted := true } }
    have hp := h.permits
    simp only [Lane.isPermitted, hheld, Option.any_some, Bool.false_eq_true, if_false,
      if_true] at hcount
    show c.free - 1 + (c.mapLane id _).permitted + c.running.length = c.config.permits
    omega

theorem handOver? (h : c.Sound) (hd : c.handOver? id = some d) : d.Sound := by
  obtain ⟨l, m, hl, hheld, rfl⟩ := handOver?_eq_some hd
  obtain ⟨hnodup, hlt, hdet⟩ := h.map_lanes
    (fun l => if l.id = id then { l with held := none } else l)
    (fun l => by split <;> rfl) (fun l => by split <;> exact fun hs => hs)
  refine { h with
    ids_nodup := hnodup, ids_lt := hlt, detached := hdet
    numbers_nodup := ?_, numbers_lt := ?_, waiting_of_line := ?_, permits := ?_ }
  · show ((c.running ++ [_]).map Delivery.number).Nodup
    -- All numbers so far are below that of the new delivery.
    rw [List.map_append]
    refine List.nodup_append.2 ⟨h.numbers_nodup, List.nodup_singleton _, ?_⟩
    intro a ha b hb hab
    obtain ⟨x, hx, rfl⟩ := List.mem_map.1 ha
    have hlt := h.numbers_lt x hx
    have hb' : b = c.started := by simpa using hb
    omega
  · intro x hx
    show x.number < c.started + 1
    rcases List.mem_append.1 hx with hx | hx
    · exact Nat.lt_succ_of_lt (h.numbers_lt x hx)
    · rw [List.mem_singleton.1 hx]
      exact Nat.lt_succ_self _
  · -- The lane was not in line before, for it had its permit.
    have hout := h.not_mem_line hl (by simp [Lane.isWaiting, hheld])
    refine h.waiting_of_others id
      (fun j hj => ⟨hj, ne_of_mem_of_not_mem hj hout⟩) fun j hj => ?_
    exact (lane?_mapLane _ (by intro; rfl) j).trans (if_neg hj)
  · -- The permit goes from the lane to the delivery.
    have hcount := h.permitted_mapLane hl fun l => { l with held := none }
    have hp := h.permits
    simp only [Lane.isPermitted, hheld, Option.any_some, Option.any_none, Bool.false_eq_true,
      if_false, if_true] at hcount
    show c.free + (c.mapLane id _).permitted + (c.running ++ [_]).length = c.config.permits
    rw [List.length_append, List.length_singleton]
    omega

theorem begin? (h : c.Sound) (hd : c.begin? n = some d) : d.Sound := by
  obtain ⟨x, _, _, rfl⟩ := begin?_eq_some hd
  refine { h with numbers_nodup := ?_, numbers_lt := ?_, permits := ?_ }
  · show (List.map Delivery.number (c.running.map _)).Nodup
    rw [List.map_map, List.map_congr_left fun y _ => show _ = y.number by
      dsimp only [Function.comp]; split <;> rfl]
    exact h.numbers_nodup
  · intro z hz
    obtain ⟨y, hy, rfl⟩ := List.mem_map.1 hz
    have := h.numbers_lt y hy
    split <;> exact this
  · show c.free + c.permitted + (c.running.map _).length = c.config.permits
    rw [List.length_map]
    exact h.permits

theorem finish? {ending : Ending} (h : c.Sound) (hd : c.finish? n ending = some d) : d.Sound := by
  obtain ⟨x, hx, _, rfl⟩ := finish?_eq_some hd
  have hperm := perm_cons_filter_key Delivery.number h.numbers_nodup (mem_of_delivery? hx)
  rw [number_of_delivery? hx] at hperm
  refine { h with
    numbers_nodup := (List.filter_sublist.map _).nodup h.numbers_nodup
    numbers_lt := fun y hy => h.numbers_lt y (List.mem_filter.1 hy).1
    permits := ?_ }
  show c.free + 1 + c.permitted + (c.running.filter _).length = c.config.permits
  -- Just one delivery has the number, so just one permit comes back.
  have hlen := hperm.length_eq
  have hp := h.permits
  rw [List.length_cons] at hlen
  omega

/-- A lane that goes away has no permit. -/
theorem isPermitted_of_leaves {l : Lane μ}
    (h : c.cancelled = true ∧ l.isPermitted = false ∨ l.isSpent = true) :
    l.isPermitted = false := by
  rcases h with ⟨_, hfalse⟩ | hspent
  · exact hfalse
  · simp [Lane.isPermitted, (Lane.isSpent_iff.1 hspent).2.2]

theorem leave? (h : c.Sound) (hd : c.leave? id = some d) : d.Sound := by
  obtain ⟨l, hl, hgone, rfl⟩ := leave?_eq_some hd
  refine { h with
    ids_nodup := (List.filter_sublist.map _).nodup h.ids_nodup
    ids_lt := fun k hk => h.ids_lt k (List.mem_filter.1 hk).1
    line_nodup := h.line_nodup.erase id
    detached := fun hc k hk => h.detached hc k (List.mem_filter.1 hk).1
    waiting_of_line := ?_, permits := ?_ }
  · refine h.waiting_of_others id
      (fun j hj => (h.line_nodup.mem_erase_iff.1 hj).symm) fun j hj => ?_
    exact (lane?_leave? hd j).trans (if_neg hj)
  · -- The lane takes no permit with it.
    have hperm := perm_cons_filter_key Lane.id h.ids_nodup (mem_of_lane? hl)
    rw [id_of_lane? hl] at hperm
    have hcount : c.permitted = (c.lanes.filter fun l => l.id ≠ id).countP Lane.isPermitted := by
      rw [permitted, hperm.countP_eq,
        List.countP_cons_of_neg (by simp [isPermitted_of_leaves hgone])]
    show c.free + (c.lanes.filter _).countP Lane.isPermitted + c.running.length = _
    rw [← hcount]
    exact h.permits

theorem send (h : c.Sound) (m : μ) : (c.send m).2.Sound := by
  have hlane := lane?_send (c := c) m
  cases hacc : c.accepts with
  | false => rw [send_of_not_accepts hacc]; exact h
  | true =>
      simp only [hacc, if_true] at hlane
      rw [send_of_accepts hacc] at hlane ⊢
      obtain ⟨hnodup, hlt, hdet⟩ := h.map_lanes (·.push m) (fun l => (push_fields l m).1)
        (fun l hs => (push_fields l m).2.1 ▸ hs)
      refine { h with
        ids_nodup := hnodup, ids_lt := hlt, detached := hdet
        waiting_of_line := ?_, permits := ?_ }
      · exact h.waiting_of_map fun j =>
          .inr ⟨(·.push m), fun l => by simp [Lane.isWaiting], hlane j⟩
      · show c.free + (c.lanes.map _).countP _ + c.running.length = _
        rw [countP_isPermitted_map _ fun l => (push_fields l m).2.2]
        exact h.permits

theorem subscribe (h : c.Sound) : c.subscribe.2.Sound := by
  have hlane := lane?_subscribe (c := c)
  by_cases hc : c.closed = true
  · rw [subscribe_of_closed hc]
    exact { h with ids_lt := fun l hl => Nat.lt_succ_of_lt (h.ids_lt l hl) }
  · have hopen : c.closed = false := by simpa using hc
    rw [subscribe_of_open hopen] at hlane ⊢
    refine { h with
      ids_nodup := ?_, ids_lt := ?_, waiting_of_line := ?_, permits := ?_
      detached := fun hclosed => absurd hclosed hc }
    · rw [List.map_append]
      refine List.nodup_append.2 ⟨h.ids_nodup, List.nodup_singleton _, ?_⟩
      intro a ha b hb hab
      obtain ⟨l, hl, rfl⟩ := List.mem_map.1 ha
      have hlt := h.ids_lt l hl
      have hb' : b = c.nextId := by simpa using hb
      omega
    · intro l hl
      show l.id < c.nextId + 1
      rcases List.mem_append.1 hl with hl | hl
      · exact Nat.lt_succ_of_lt (h.ids_lt l hl)
      · rw [List.mem_singleton.1 hl]
        exact Nat.lt_succ_self _
    · intro j hj
      obtain ⟨l, hl, hwaits⟩ := h.waiting_of_line j hj
      exact ⟨l, by rw [hlane, hl]; rfl, hwaits⟩
    · show c.free + (c.lanes ++ [_]).countP Lane.isPermitted + c.running.length = _
      rw [List.countP_append]
      exact h.permits

theorem unsubscribe (h : c.Sound) (id : Nat) : (c.unsubscribe id).2.Sound := by
  obtain ⟨hnodup, hlt, hdet⟩ := h.map_lanes (fun l => if l.id = id then l.detach else l)
    (fun l => by split <;> rfl)
    (fun l => by
      split
      · exact fun hs => by cases hs
      · exact fun hs => hs)
  refine { h with
    ids_nodup := hnodup, ids_lt := hlt, detached := hdet, waiting_of_line := ?_, permits := ?_ }
  · refine h.waiting_of_map fun j => ?_
    rw [lane?_unsubscribe]
    by_cases hj : j = id
    · exact .inr ⟨Lane.detach, fun l => l.isWaiting_detach, if_pos hj⟩
    · exact .inl (if_neg hj)
  · show c.free + (c.lanes.map _).countP _ + c.running.length = _
    rw [countP_isPermitted_map _ fun l => by split <;> rfl]
    exact h.permits

theorem close (h : c.Sound) : c.close.2.Sound := by
  have hlane := lane?_close (c := c)
  cases hc : c.closed with
  | true => rw [close_of_closed hc]; exact h
  | false =>
      simp only [hc, Bool.false_eq_true, if_false] at hlane
      rw [close_of_open hc] at hlane ⊢
      obtain ⟨hnodup, hlt, _⟩ := h.map_lanes Lane.detach (fun _ => rfl) (fun _ hs => by cases hs)
      refine { h with
        ids_nodup := hnodup, ids_lt := hlt, detached := ?_, waiting_of_line := ?_, permits := ?_
        closed_of_cancelled := fun _ => rfl }
      · exact h.waiting_of_map fun j => .inr ⟨Lane.detach, fun l => l.isWaiting_detach, hlane j⟩
      · show c.free + (c.lanes.map _).countP _ + c.running.length = _
        rw [countP_isPermitted_map Lane.detach fun _ => rfl]
        exact h.permits
      · intro _ k hk
        obtain ⟨l, _, rfl⟩ := List.mem_map.1 hk
        rfl

theorem cancel (h : c.Sound) (hc : c.closed = true) : c.cancel.Sound :=
  { h with closed_of_cancelled := fun _ => hc }

/-- Every event keeps the invariant. -/
theorem after? (h : c.Sound) {e : Event μ} (hd : c.after? e = some d) : d.Sound := by
  cases e with
  | send m => cases hd; exact h.send m
  | subscribe => cases hd; exact h.subscribe
  | unsubscribe id => cases hd; exact h.unsubscribe id
  | take id => exact h.take? hd
  | lineUp id => exact h.lineUp? hd
  | acquire id => exact h.acquire? hd
  | handOver id => exact h.handOver? hd
  | «begin» n => exact h.begin? hd
  | finish n ending => exact h.finish? (show c.finish? n ending = some d from hd)
  | leave id => exact h.leave? hd
  | close => cases hd; exact h.close
  | cancel =>
      obtain ⟨hc, rfl⟩ : c.closed = true ∧ c.cancel = d := by simpa [Channel.after?] using hd
      exact h.cancel hc

end Sound

/-! ## What is not about lanes and deliveries -/

/-- Whether a delivery starts. -/
def Event.isStart : Event μ → Bool
  | .handOver _ => true
  | _ => false

/-- The settings stay as they are, deliveries are numbered in the order in which they start, and
giving up is for good and comes about just when a shutdown has waited long enough. -/
theorem fields_after? {e : Event μ} (hd : c.after? e = some d) :
    d.config = c.config ∧ d.started = c.started + (if e.isStart then 1 else 0) ∧
      (d.cancelled = true ↔ c.cancelled = true ∨ e = .cancel) := by
  cases e with
  | send m => cases hd; unfold send; split <;> exact ⟨rfl, rfl, by simp⟩
  | subscribe => cases hd; exact ⟨rfl, rfl, by simp [subscribe]⟩
  | unsubscribe id => cases hd; exact ⟨rfl, rfl, by simp [unsubscribe, mapLane]⟩
  | take id =>
      obtain ⟨_, _, _, _, _, _, _, rfl⟩ := take?_eq_some hd
      exact ⟨rfl, rfl, by simp [mapLane]⟩
  | lineUp id => obtain ⟨_, _, _, _, _, rfl⟩ := lineUp?_eq_some hd; exact ⟨rfl, rfl, by simp⟩
  | acquire id => obtain ⟨_, _, _, _, _, _, rfl⟩ := acquire?_eq_some hd; exact ⟨rfl, rfl, by simp⟩
  | handOver id => obtain ⟨_, _, _, _, rfl⟩ := handOver?_eq_some hd; exact ⟨rfl, rfl, by simp⟩
  | «begin» n => obtain ⟨_, _, _, rfl⟩ := begin?_eq_some hd; exact ⟨rfl, rfl, by simp⟩
  | finish n ending =>
      obtain ⟨_, _, _, rfl⟩ := finish?_eq_some (show c.finish? n ending = some d from hd)
      exact ⟨rfl, rfl, by simp⟩
  | leave id => obtain ⟨_, _, _, rfl⟩ := leave?_eq_some hd; exact ⟨rfl, rfl, by simp⟩
  | close => cases hd; unfold close; split <;> exact ⟨rfl, rfl, by simp⟩
  | cancel =>
      obtain ⟨_, rfl⟩ : c.closed = true ∧ c.cancel = d := by simpa [Channel.after?] using hd
      exact ⟨rfl, rfl, by simp [cancel]⟩

/-! ## Runs -/

theorem run?_cons {e : Event μ} {es : List (Event μ)} :
    c.run? (e :: es) = some d ↔ ∃ b, c.after? e = some b ∧ b.run? es = some d := by
  simp [run?, Option.bind_eq_some_iff]

theorem run?_singleton {e : Event μ} : c.run? [e] = c.after? e := by
  unfold run?
  cases c.after? e <;> rfl

/-- Sending several messages can always happen. -/
theorem run?_map_send (c : Channel μ) (ms : List μ) :
    c.run? (ms.map .send) = some (ms.foldl (fun c m => (c.send m).2) c) := by
  induction ms generalizing c with
  | nil => rfl
  | cons m ms ih => exact ih (c.send m).2

theorem run?_append {es fs : List (Event μ)} :
    c.run? (es ++ fs) = some d ↔ ∃ b, c.run? es = some b ∧ b.run? fs = some d := by
  induction es generalizing c with
  | nil => simp [run?]
  | cons e es ih =>
      rw [List.cons_append, run?_cons]
      constructor
      · rintro ⟨b, hb, hrun⟩
        obtain ⟨b', hb', hrest⟩ := ih.1 hrun
        exact ⟨b', run?_cons.2 ⟨b, hb, hb'⟩, hrest⟩
      · rintro ⟨b', hb', hrest⟩
        obtain ⟨b, hb, hrun⟩ := run?_cons.1 hb'
        exact ⟨b, hb, ih.2 ⟨b', hrun, hrest⟩⟩

/-- What every event keeps, every run keeps. -/
theorem run?_induction {P : Channel μ → Prop}
    (hstep : ∀ {c d : Channel μ} {e : Event μ}, P c → c.after? e = some d → P d)
    {es : List (Event μ)} (hc : P c) (hd : c.run? es = some d) : P d := by
  induction es generalizing c with
  | nil => cases hd; exact hc
  | cons e es ih =>
      obtain ⟨b, hb, hrun⟩ := run?_cons.1 hd
      exact ih (hstep hc hb) hrun

/-- The settings stay as they are in every run. -/
theorem config_run? {es : List (Event μ)} (hd : c.run? es = some d) : d.config = c.config :=
  run?_induction (P := fun b => b.config = c.config)
    (fun hb he => (fields_after? he).1.trans hb) rfl hd

/-- Every run keeps the invariant. -/
theorem Sound.run? (h : c.Sound) {es : List (Event μ)} (hd : c.run? es = some d) : d.Sound :=
  run?_induction (fun hc he => hc.after? he) h hd

end Channel

end Switchboard
