/-
# Switchboard.Proofs.Channel.Capacity -- that as many deliveries run as the settings say

`Limited` bounds the deliveries that run at a time from above. Here is the other half. Who waits for
a permit may get in line. The lanes in line may take permits as long as there is room for them and
for those before them, and for no longer (`Sound.acquire_iff`), so that a channel never makes
anybody wait while a permit is free; and who has a permit may go on.

A subscriber that has messages in its queue can have as many of them under way as there are permits,
all at once (`Ready.handOverAll`): what carries the induction is that after each of them the channel
is `Ready` for the next one. `Clear` follows the lane from one such point to the next.
-/

import Switchboard.Proofs.Channel.Permits

namespace Switchboard

namespace Channel

variable {μ : Type} {c d : Channel μ} {id i n : Nat} {m : μ} {ms : List μ}

/-! ## Settings that ask for too much -/

section Create

variable {config : ChannelConfig}

theorem create_of_le (h : max 1 config.maxConcurrency.toNat ≤ maxPermits) :
    (create config : Except Panic (Channel μ)) = .ok (new config) :=
  if_pos h

theorem create_of_lt (h : maxPermits < max 1 config.maxConcurrency.toNat) :
    (create config : Except Panic (Channel μ)) = .error tooManyPermits :=
  if_neg (Nat.not_le_of_lt h)

end Create

/-! ## Who may take a permit -/

/-- How a channel admits `n` deliveries at a time. -/
structure Admits (n : Nat) (c : Channel μ) : Prop where
  /-- No more than `n` deliveries run or are about to start. -/
  atMost : c.permitted + c.running.length ≤ n
  /-- A lane that waits for a permit is in line or may get in line. -/
  lines : c.cancelled = false → ∀ id l, c.lane? id = some l → l.isWaiting = true →
    id ∈ c.line ∨ ∃ d, c.after? (.lineUp id) = some d
  /-- Of the lanes in line those may take a permit for which there is room then, and no others. -/
  admitted : c.cancelled = false → ∀ i id, c.line[i]? = some id →
    ((∃ d, c.after? (.acquire id) = some d) ↔ c.permitted + c.running.length + i < n)
  /-- Those who have a permit may start a delivery. -/
  starts : ∀ id m, c.granted? id = some m → ∃ d, c.after? (.handOver id) = some d

namespace Sound

/-- A lane in line may take a permit just when there are enough for those before it, too. -/
theorem isGranted_iff_of_line (h : c.Sound) (hi : c.line[i]? = some id) :
    c.isGranted id = true ↔ i < c.free := by
  have hfirst : c.line.idxOf? id = some i := by
    obtain ⟨hlt, rfl⟩ := List.getElem?_eq_some_iff.1 hi
    refine List.idxOf?_eq_some_iff.2 ⟨hlt, rfl, fun j hj heq => ?_⟩
    have hsame := (List.getElem_inj h.line_nodup).1 heq
    omega
  rw [isGranted_iff]
  constructor
  · rintro ⟨j, hj, hlt⟩
    rw [hfirst] at hj
    cases hj
    exact hlt
  · intro hlt
    exact ⟨i, hfirst, hlt⟩

theorem acquire_iff (h : c.Sound) (hcancelled : c.cancelled = false) (hi : c.line[i]? = some id) :
    (∃ d, c.after? (.acquire id) = some d) ↔
      c.permitted + c.running.length + i < c.config.permits := by
  have hpermits := h.permits
  have hgranted := h.isGranted_iff_of_line hi
  constructor
  · rintro ⟨d, hd⟩
    have hlt := hgranted.1 (acquire?_eq_some hd).2.1
    omega
  · intro hroom
    obtain ⟨l, hl, hwaits⟩ := h.waiting_of_line id (List.mem_of_getElem? hi)
    have hlt : i < c.free := by omega
    exact Option.ne_none_iff_exists'.1 (acquire?_ne_none hcancelled (hgranted.2 hlt) hl hwaits)

/-- A sound channel admits as many deliveries as its settings say. -/
theorem admits (h : c.Sound) : c.Admits c.config.permits where
  atMost := by
    have hpermits := h.permits
    omega
  lines hcancelled id l hl hwaits := by
    by_cases hin : id ∈ c.line
    · exact .inl hin
    · exact .inr (Option.ne_none_iff_exists'.1 (lineUp?_ne_none hcancelled hin hl hwaits))
  admitted hcancelled _ _ hi := h.acquire_iff hcancelled hi
  starts _ _ hm := by
    obtain ⟨d, hd, _⟩ := h.exists_handOver hm
    exact ⟨d, hd⟩

end Sound

/-! ## Handing messages over -/

/-- A lane has come to some point between its queue and a delivery, and nobody is in its way. -/
structure Clear (c : Channel μ) (l : Lane μ) (line : List Nat) : Prop where
  sound : c.Sound
  cancelled : c.cancelled = false
  line : c.line = line
  permitted : c.permitted = if l.isPermitted then 1 else 0
  lane : c.lane? l.id = some l

/-- A subscriber has messages in its queue, and nobody is in its way. -/
def Ready (c : Channel μ) (id : Nat) (ms : List μ) : Prop := c.Clear { id, queue := ms } []

theorem ready_subscribe_new (config : ChannelConfig) :
    (new config : Channel μ).subscribe.2.Ready 1 [] where
  sound := (sound_new config).subscribe
  cancelled := rfl
  line := rfl
  permitted := rfl
  lane := rfl

/-- When the lane changes and no other one does, there is still nobody in its way. -/
theorem Clear.change {l : Lane μ} {line line' : List Nat} (h : c.Clear l line) (f : Lane μ → Lane μ)
    (hid : ∀ l, (f l).id = l.id) (hsound : d.Sound) (hcancelled : d.cancelled = c.cancelled)
    (hlanes : d.lanes = (c.mapLane l.id f).lanes) (hline : d.line = line') :
    d.Clear (f l) line' where
  sound := hsound
  cancelled := hcancelled.trans h.cancelled
  line := hline
  permitted := by
    have hcount := h.sound.permitted_mapLane h.lane f
    rw [h.permitted, Nat.add_comm] at hcount
    rw [Channel.permitted, hlanes]
    exact Nat.add_left_cancel hcount
  lane := by
    rw [hid]
    show d.lanes.find? _ = _
    rw [hlanes]
    refine (lane?_mapLane f hid l.id).trans ?_
    rw [if_pos rfl, h.lane]
    rfl

namespace Ready

/-- A channel with a subscriber accepts messages. -/
theorem accepts (h : c.Ready id ms) : c.accepts = true := by
  have hmem := mem_of_lane? h.lane
  rw [h.sound.accepts_iff]
  refine List.ne_nil_of_mem (a := id) ?_
  exact List.mem_map.2 ⟨_, List.mem_filter.2 ⟨hmem, rfl⟩, rfl⟩

/-- It is open, for only an open channel has subscribers. -/
theorem closed (h : c.Ready id ms) : c.closed = false := by
  cases hc : c.closed with
  | false => rfl
  | true => cases h.sound.detached hc _ (mem_of_lane? h.lane)

theorem send (h : c.Ready id ms) (m : μ) : (c.send m).2.Ready id (ms ++ [m]) where
  sound := h.sound.send m
  cancelled := by
    rw [send_of_accepts h.accepts]
    exact h.cancelled
  line := by
    rw [send_of_accepts h.accepts]
    exact h.line
  permitted := by
    rw [send_of_accepts h.accepts]
    exact (Sound.countP_isPermitted_map _ (fun l => (push_fields l m).2.2) _).trans h.permitted
  lane := by
    rw [lane?_send, if_pos h.accepts]
    exact congrArg (Option.map _) h.lane

/-- The next message is taken off the queue. -/
theorem take (h : c.Ready id (m :: ms)) : ∃ d, c.after? (.take id) = some d ∧
    d.Clear { id, queue := ms, held := some { message := m } } [] ∧ d.running = c.running := by
  obtain ⟨d, hd⟩ : ∃ d, c.take? id = some d :=
    Option.ne_none_iff_exists'.1 (take?_ne_none h.cancelled h.lane rfl (by simp))
  have hsound := h.sound.take? hd
  obtain ⟨_, l, _, _, hl, hqueue, _, rfl⟩ := take?_eq_some hd
  obtain rfl := Option.some.inj (h.lane.symm.trans hl)
  cases hqueue
  refine ⟨_, hd, ?_, rfl⟩
  exact h.change (fun l => { l with queue := ms, held := some { message := m } })
    (by intro; rfl) hsound rfl rfl h.line

/-- A delivery begins, and the others stay what they are. -/
theorem «begin» (h : c.Ready id ms) {x : Delivery μ} (hx : x ∈ c.running)
    (hnew : x.begun = false) : ∃ d, c.after? (.begin x.number) = some d ∧ d.Ready id ms ∧
      d.running.map Delivery.message = c.running.map Delivery.message ∧
      ∀ y ∈ d.running, y.begun = true ∨ y ∈ c.running ∧ y.number ≠ x.number := by
  have hfound := h.sound.delivery?_of_mem hx
  obtain ⟨d, hd⟩ : ∃ d, c.begin? x.number = some d := by
    obtain ⟨number, lane, message, begun⟩ := x
    subst hnew
    exact Option.ne_none_iff_exists'.1 (by simp [begin?, hfound])
  obtain ⟨_, _, _, heq⟩ := begin?_eq_some hd
  have hsound := h.sound.begin? hd
  subst heq
  refine ⟨_, hd, ⟨hsound, h.cancelled, h.line, h.permitted, h.lane⟩, ?_, ?_⟩
  · rw [List.map_map]
    refine List.map_congr_left fun y _ => ?_
    show (if y.number = x.number then _ else y).message = y.message
    split <;> rfl
  · intro z hz
    obtain ⟨y, hy, rfl⟩ := List.mem_map.1 hz
    split
    · exact .inl rfl
    · next hne => exact .inr ⟨hy, hne⟩

end Ready

namespace Clear

/-- The lane gets in line, and nobody is before it. -/
theorem lineUp {l : Lane μ} (h : c.Clear l []) (hwaits : l.isWaiting = true) :
    ∃ d, c.after? (.lineUp l.id) = some d ∧ d.Clear l [l.id] ∧ d.running = c.running := by
  obtain ⟨d, hd⟩ : ∃ d, c.lineUp? l.id = some d :=
    Option.ne_none_iff_exists'.1 (lineUp?_ne_none h.cancelled (by simp [h.line]) h.lane hwaits)
  have hsound := h.sound.lineUp? hd
  obtain ⟨_, _, _, _, _, rfl⟩ := lineUp?_eq_some hd
  refine ⟨_, hd, ⟨hsound, h.cancelled, ?_, h.permitted, h.lane⟩, rfl⟩
  show c.line ++ [l.id] = [l.id]
  rw [h.line, List.nil_append]

/-- If there is room, the lane gets its permit. -/
theorem acquire (h : c.Clear { id, queue := ms, held := some { message := m } } [id])
    (hroom : c.running.length < c.config.permits) : ∃ d, c.after? (.acquire id) = some d ∧
      d.Clear { id, queue := ms, held := some { message := m, permitted := true } } [] ∧
      d.running = c.running := by
  obtain ⟨d, hd⟩ : ∃ d, c.after? (.acquire id) = some d := by
    have hnone : c.permitted = 0 := h.permitted
    refine (h.sound.acquire_iff h.cancelled (i := 0) (by rw [h.line]; rfl)).2 ?_
    omega
  have hsound := h.sound.acquire? hd
  obtain ⟨_, _, l, _, hl, hheld, rfl⟩ := acquire?_eq_some hd
  obtain rfl := Option.some.inj (h.lane.symm.trans hl)
  cases hheld
  refine ⟨_, hd, ?_, rfl⟩
  refine h.change (fun l => { l with held := some { message := m, permitted := true } })
    (by intro; rfl) hsound rfl rfl ?_
  show c.line.erase id = []
  rw [h.line]
  simp

/-- With a permit, the message that a lane holds is on its way. -/
theorem handOver
    (h : c.Clear { id, queue := ms, held := some { message := m, permitted := true } } []) :
    ∃ d, c.after? (.handOver id) = some d ∧ d.Ready id ms ∧
      d.running = c.running ++ [{ number := c.started, lane := id, message := m }] := by
  obtain ⟨d, hd⟩ : ∃ d, c.after? (.handOver id) = some d :=
    Option.ne_none_iff_exists'.1 (handOver?_ne_none h.lane rfl)
  have hsound := h.sound.handOver? hd
  obtain ⟨l, _, hl, hheld, rfl⟩ := handOver?_eq_some hd
  obtain rfl := Option.some.inj (h.lane.symm.trans hl)
  cases hheld
  refine ⟨_, hd, ?_, rfl⟩
  exact h.change (fun l => { l with held := none }) (by intro; rfl) hsound rfl rfl h.line

end Clear

/-- Some messages, and no others, are being handled at the same time. -/
structure Handling (c : Channel μ) (ms : List μ) : Prop where
  messages : c.running.map Delivery.message = ms
  begun : ∀ x ∈ c.running, x.begun = true

theorem handling_nil (h : c.running = []) : c.Handling [] where
  messages := by rw [h, List.map_nil]
  begun x hx := by
    rw [h] at hx
    cases hx

theorem Handling.length_running (h : c.Handling ms) : c.running.length = ms.length := by
  rw [← h.messages, List.length_map]

namespace Ready

/-- The step: if there is room, the next message is handed over and its handling begins, while the
handling of the others goes on. -/
theorem handOver {ns : List μ} (h : c.Ready id (m :: ms)) (hbusy : c.Handling ns)
    (hroom : ns.length < c.config.permits) :
    ∃ es d, (∀ e ∈ es, e.isInternal = true) ∧ c.run? es = some d ∧ d.Ready id ms ∧
      d.Handling (ns ++ [m]) := by
  obtain ⟨c₁, h₁, htaken, hrunning⟩ := h.take
  obtain ⟨c₂, h₂, hinLine, hrunning₂⟩ := htaken.lineUp rfl
  have hbefore : c.run? [.take id, .lineUp id] = some c₂ :=
    run?_cons.2 ⟨c₁, h₁, run?_singleton.trans h₂⟩
  obtain ⟨c₃, h₃, hpermitted, hrunning₃⟩ := hinLine.acquire
    (by rwa [config_run? hbefore, hrunning₂, hrunning, hbusy.length_running])
  obtain ⟨c₄, h₄, hready, hnew⟩ := hpermitted.handOver
  rw [hrunning₃, hrunning₂] at hnew
  obtain ⟨d, hd, hready', hmessages, hbegun⟩ := hready.begin
    (x := { number := c₃.started, lane := id, message := m }) (by simp [hnew]) rfl
  have hrun : c.run? ([.take id, .lineUp id] ++
      [.acquire id, .handOver id, .begin c₃.started]) = some d :=
    run?_append.2 ⟨c₂, hbefore, run?_cons.2 ⟨c₃, h₃,
      run?_cons.2 ⟨c₄, h₄, run?_singleton.trans hd⟩⟩⟩
  refine ⟨_, d, by simp [Event.isInternal], hrun, hready', ⟨?_, ?_⟩⟩
  · rw [hmessages, hnew, hrunning, List.map_append, hbusy.messages]
    rfl
  · intro x hx
    rcases hbegun x hx with hx | ⟨hx, hne⟩
    · exact hx
    · rw [hnew, hrunning] at hx
      rcases List.mem_append.1 hx with hx | hx
      · exact hbusy.begun x hx
      · rw [List.mem_singleton.1 hx] at hne
        exact absurd rfl hne

/-- The run: as many messages as there is room for are handled at the same time. -/
theorem handOverAll {ns : List μ} (h : c.Ready id ms) (hbusy : c.Handling ns)
    (hroom : ns.length + ms.length ≤ c.config.permits) :
    ∃ es d, (∀ e ∈ es, e.isInternal = true) ∧ c.run? es = some d ∧ d.Handling (ns ++ ms) := by
  induction ms generalizing c ns with
  | nil => exact ⟨[], c, by simp, rfl, by rwa [List.append_nil]⟩
  | cons m ms ih =>
      rw [List.length_cons] at hroom
      obtain ⟨es, b, hes, hb, hready, hbusy'⟩ := h.handOver hbusy (by omega)
      have hroom' : (ns ++ [m]).length + ms.length ≤ b.config.permits := by
        rw [config_run? hb, List.length_append, List.length_singleton]
        omega
      obtain ⟨fs, d, hfs, hd, hall⟩ := ih hready hbusy' hroom'
      refine ⟨es ++ fs, d, ?_, run?_append.2 ⟨b, hb, hd⟩, ?_⟩
      · intro e he
        exact (List.mem_append.1 he).elim (hes e) (hfs e)
      · rwa [List.append_assoc] at hall

end Ready

end Channel

end Switchboard
