/-
# Switchboard.Proofs.Channel.Delivery -- what publishers and subscribers can rely on

`Faithful` collects what holds of a channel after any run from its creation, whatever the settings
and whatever the order of the events: which sends are accepted, what is handed over and in which
order, that nothing is lost, that neither the end of a delivery nor the loss of a subscriber
disturbs anybody, and how little is still handed over once the channel was given up.
`faithful_of_run?` proves it of every run.

What is new here beside the laws of `History` is that a channel which can do nothing by itself any
more has nothing left to hand over (`Sound.pending_of_quiet`).
-/

import Switchboard.Proofs.Channel.History

namespace Switchboard

namespace Channel

variable {μ : Type} {c d : Channel μ} {e : Event μ} {es fs : List (Event μ)} {id n : Nat}

/-! ## A channel that has come to rest -/

/-- What happens without a call. -/
def Event.isInternal : Event μ → Bool
  | .take _ | .lineUp _ | .acquire _ | .handOver _ | .begin _ | .finish _ _ | .leave _ => true
  | _ => false

/-- Nothing happens any more without a call. -/
def Quiet (c : Channel μ) : Prop := ∀ e : Event μ, e.isInternal = true → c.after? e = none

theorem take?_ne_none {l : Lane μ} (hc : c.cancelled = false) (hl : c.lane? id = some l)
    (hheld : l.held = none) (hq : l.queue ≠ []) : c.take? id ≠ none := by
  obtain ⟨i, s, queue, held⟩ := l
  obtain ⟨m, rest, rfl⟩ := List.exists_cons_of_ne_nil hq
  subst hheld
  simp [take?, hc, hl]

theorem lineUp?_ne_none {l : Lane μ} (hc : c.cancelled = false) (hout : id ∉ c.line)
    (hl : c.lane? id = some l) (hwaits : l.isWaiting = true) : c.lineUp? id ≠ none := by
  simp [lineUp?, hc, hout, hl, hwaits]

theorem acquire?_ne_none {l : Lane μ} (hc : c.cancelled = false) (hg : c.isGranted id = true)
    (hl : c.lane? id = some l) (hwaits : l.isWaiting = true) : c.acquire? id ≠ none := by
  obtain ⟨i, s, queue, _ | ⟨m, permitted⟩⟩ := l
  · cases hwaits
  · cases permitted with
    | false => simp [acquire?, hc, hg, hl]
    | true => cases hwaits

/-- A lane that has a permit can hand its message over, whatever was given up. -/
theorem handOver?_ne_none {l : Lane μ} (hl : c.lane? id = some l)
    (hpermitted : l.isPermitted = true) : c.handOver? id ≠ none := by
  obtain ⟨i, s, queue, _ | ⟨m, permitted⟩⟩ := l
  · cases hpermitted
  · cases permitted with
    | false => cases hpermitted
    | true => simp [handOver?, hl]

/-- A delivery that runs can begin or end. -/
theorem begin?_or_finish?_ne_none {x : Delivery μ} (hx : c.delivery? n = some x) :
    c.begin? n ≠ none ∨ c.finish? n .succeeded ≠ none := by
  obtain ⟨number, lane, message, begun⟩ := x
  cases begun with
  | false => exact .inl (by simp [begin?, hx])
  | true => exact .inr (by simp [finish?, hx])

theorem permits_pos (config : ChannelConfig) : 0 < config.permits :=
  Nat.lt_of_lt_of_le Nat.one_pos (Nat.le_max_left _ _)

namespace Sound

/-- Nothing runs in a channel at rest. -/
theorem running_of_quiet (h : c.Sound) (hq : c.Quiet) : c.running = [] := by
  refine List.eq_nil_iff_forall_not_mem.2 fun x hx => ?_
  rcases begin?_or_finish?_ne_none (h.delivery?_of_mem hx) with hne | hne
  · exact hne (hq (.begin x.number) rfl)
  · exact hne (hq (.finish x.number .succeeded) rfl)

/-- In a channel at rest no lane has a permit: it would hand its message over. -/
theorem isPermitted_of_quiet (h : c.Sound) (hq : c.Quiet) {l : Lane μ} (hl : l ∈ c.lanes) :
    l.isPermitted = false := by
  by_contra hne
  exact handOver?_ne_none (h.lane?_of_mem hl) (by simpa using hne) (hq (.handOver l.id) rfl)

theorem granted?_of_quiet (h : c.Sound) (hq : c.Quiet) (id : Nat) : c.granted? id = none := by
  cases hl : c.lane? id with
  | none => exact granted?_of_none hl
  | some l =>
      rw [granted?_of_lane? hl]
      exact Lane.granted?_eq_none (h.isPermitted_of_quiet hq (mem_of_lane? hl))

/-- Nobody stands in line in a channel at rest: the first one would have its permit. -/
theorem line_of_quiet (h : c.Sound) (hc : c.cancelled = false) (hq : c.Quiet) : c.line = [] := by
  cases hline : c.line with
  | nil => rfl
  | cons id rest =>
      -- With nothing running and nothing to be handed over, all permits are free.
      have hfree : 0 < c.free := by
        have hnone : c.permitted = 0 := List.countP_eq_zero.2 fun l hl => by
          simp [h.isPermitted_of_quiet hq hl]
        have hpermits := h.permits
        have hpos := permits_pos c.config
        rw [h.running_of_quiet hq, List.length_nil] at hpermits
        omega
      have hg : c.isGranted id = true :=
        isGranted_iff.2 ⟨0, by simp [hline, List.idxOf?_cons], hfree⟩
      obtain ⟨l, hl, hwaits⟩ := h.waiting_of_line id (by simp [hline])
      exact absurd (hq (.acquire id) rfl) (acquire?_ne_none hc hg hl hwaits)

/-- Nothing waits in a channel at rest, unless it was given up. -/
theorem pending_of_quiet (h : c.Sound) (hc : c.cancelled = false) (hq : c.Quiet) (id : Nat) :
    c.pending id = [] := by
  cases hl : c.lane? id with
  | none => exact pending_of_none hl
  | some l =>
      have hheld : l.held = none := by
        cases ht : l.held with
        | none => rfl
        | some t =>
            -- What the lane holds has a permit, or waits for one, and then the lane gets in line.
            have hpermitted := h.isPermitted_of_quiet hq (mem_of_lane? hl)
            rw [Lane.isPermitted, ht, Option.any_some] at hpermitted
            have hwaits : l.isWaiting = true := by simp [Lane.isWaiting, ht, hpermitted]
            have hout : id ∉ c.line := by simp [h.line_of_quiet hc hq]
            exact absurd (hq (.lineUp id) rfl) (lineUp?_ne_none hc hout hl hwaits)
      have hqueue : l.queue = [] := by
        by_contra hne
        exact take?_ne_none hc hl hheld hne (hq (.take id) rfl)
      rw [pending_of_lane? hl, Lane.pending, hheld, hqueue]
      rfl

end Sound

/-! ## A channel that was drained -/

theorem isDrained_iff : c.isDrained = true ↔ c.lanes = [] ∧ c.running = [] := by
  simp [isDrained]

/-- A channel that was shut down and has come to rest is drained, unless it was given up. -/
theorem Sound.isDrained_of_quiet (h : c.Sound) (hclosed : c.closed = true)
    (hc : c.cancelled = false) (hq : c.Quiet) : c.isDrained = true := by
  refine isDrained_iff.2 ⟨List.eq_nil_iff_forall_not_mem.2 fun l hl => ?_, h.running_of_quiet hq⟩
  have hlane := h.lane?_of_mem hl
  have hnothing : l.pending = [] := by
    rw [← pending_of_lane? hlane]
    exact h.pending_of_quiet hc hq l.id
  -- A lane that is left is spent, and so it would go away.
  have hspent : l.isSpent = true := by
    obtain ⟨hheld, hqueue⟩ := List.append_eq_nil_iff.1 hnothing
    exact Lane.isSpent_iff.2 ⟨h.detached hclosed l hl, hqueue, by simpa using hheld⟩
  have hleave : c.leave? l.id = none := hq (.leave l.id) rfl
  simp [Channel.leave?, hlane, hspent] at hleave

/-- Nothing comes back into a channel that was shut down and drained. -/
theorem isDrained_after? (hc : c.closed = true) (h : c.isDrained = true)
    (hd : c.after? e = some d) : d.isDrained = true := by
  obtain ⟨hlanes, hrunning⟩ := isDrained_iff.1 h
  have hlane : ∀ i, c.lane? i = none := fun i => by simp [lane?, hlanes]
  have hdelivery : ∀ n, c.delivery? n = none := fun n => by simp [delivery?, hrunning]
  -- Without lanes and deliveries nothing can move, and a closed channel lets nothing in.
  cases e with
  | send m =>
      cases hd
      rw [send_of_not_accepts (by simp [accepts, hc])]
      exact h
  | subscribe =>
      cases hd
      rw [subscribe_of_closed hc]
      exact h
  | unsubscribe i =>
      cases hd
      exact isDrained_iff.2 ⟨by simp [unsubscribe, mapLane, hlanes], hrunning⟩
  | take i =>
      obtain ⟨_, l, _, _, hl, _⟩ := take?_eq_some hd
      rw [hlane] at hl
      cases hl
  | lineUp i =>
      obtain ⟨_, _, l, hl, _⟩ := lineUp?_eq_some hd
      rw [hlane] at hl
      cases hl
  | acquire i =>
      obtain ⟨_, _, l, _, hl, _⟩ := acquire?_eq_some hd
      rw [hlane] at hl
      cases hl
  | handOver i =>
      obtain ⟨l, _, hl, _⟩ := handOver?_eq_some hd
      rw [hlane] at hl
      cases hl
  | «begin» n =>
      obtain ⟨x, hx, _⟩ := begin?_eq_some hd
      rw [hdelivery] at hx
      cases hx
  | finish n ending =>
      obtain ⟨x, hx, _⟩ := finish?_eq_some (show c.finish? n ending = some d from hd)
      rw [hdelivery] at hx
      cases hx
  | leave i =>
      obtain ⟨l, hl, _⟩ := leave?_eq_some hd
      rw [hlane] at hl
      cases hl
  | close =>
      cases hd
      rw [close_of_closed hc]
      exact h
  | cancel =>
      obtain ⟨_, rfl⟩ : c.closed = true ∧ c.cancel = d := by simpa [after?] using hd
      exact h

theorem isDrained_run? (hs : c.Sound) (hc : c.closed = true) (h : c.isDrained = true)
    (hd : c.run? es = some d) : d.isDrained = true := by
  induction es generalizing c with
  | nil => cases hd; exact h
  | cons e es ih =>
      obtain ⟨b, hb, hrun⟩ := run?_cons.1 hd
      have hbc : b.closed = true := (hs.closed_run? (run?_singleton.trans hb)).2 (.inl hc)
      exact ih (hs.after? hb) hbc (isDrained_after? hc h hb) hrun

/-- When a channel was drained without being given up, everything that was meant for a subscriber
was handed over and begun. -/
theorem Sound.handed_of_isDrained (h : c.Sound) (hp : c.pending id = []) (hu : c.running = [])
    (hd : c.run? es = some d) (hcancel : d.cancelled = false) (hdrained : d.isDrained = true) :
    handed id c es = c.roll.meantFor id es ∧
      (begun id c es).Perm (c.roll.meantFor id es) := by
  obtain ⟨hlanes, hrunning⟩ := isDrained_iff.1 hdrained
  have hwaits : d.pending id = [] := pending_of_none (by simp [lane?, hlanes])
  have hhanded : handed id c es = c.roll.meantFor id es := by
    have hlaw : handed id c es ++ d.pending id = _ := h.handed_append_pending hd hcancel
    rw [hwaits, hp, List.append_nil, List.nil_append] at hlaw
    exact hlaw
  have hnone : ∀ b : Channel μ, b.running = [] → b.unbegun id = [] := by
    intro b hb
    simp [unbegun, hb, messagesFor]
  have hperm : (c.unbegun id ++ handed id c es).Perm _ := h.unbegun_append_handed_run hd
  rw [hnone c hu, hnone d hrunning, List.nil_append, List.append_nil, hhanded] at hperm
  exact ⟨hhanded, hperm.symm⟩

/-! ## How deliveries end -/

/-- The event, with every delivery ending well. -/
def Event.endingWell : Event μ → Event μ
  | .finish n _ => .finish n .succeeded
  | e => e

theorem after?_endingWell (c : Channel μ) (e : Event μ) : c.after? e.endingWell = c.after? e := by
  cases e <;> rfl

theorem handedBy_endingWell (id : Nat) (c d : Channel μ) (e : Event μ) :
    handedBy id c e.endingWell d = handedBy id c e d := rfl

/-- Runs that differ in how deliveries end lead to one state and hand over the same. -/
theorem run?_congr_ending (h : es.map Event.endingWell = fs.map Event.endingWell) :
    c.run? es = c.run? fs ∧ ∀ id, handed id c es = handed id c fs := by
  -- Both runs go through the same states, since no step looks at how a delivery ends.
  induction es generalizing c fs with
  | nil =>
      have hfs : fs = [] := by simpa using h.symm
      rw [hfs]
      exact ⟨rfl, fun _ => rfl⟩
  | cons e es ih =>
      cases fs with
      | nil => cases h
      | cons f fs =>
          obtain ⟨hhead, htail⟩ := List.cons.inj h
          have hstep : c.after? e = c.after? f := by
            rw [← after?_endingWell c e, hhead, after?_endingWell]
          cases hd : c.after? f with
          | none =>
              rw [hd] at hstep
              simp [run?, handed, observe, hd, hstep]
          | some d =>
              rw [hd] at hstep
              obtain ⟨hrun, hhanded⟩ := ih (c := d) htail
              constructor
              · show (c.after? e).bind _ = (c.after? f).bind _
                rw [hstep, hd]
                exact hrun
              · intro id
                have hby : handedBy id c e d = handedBy id c f d := by
                  rw [← handedBy_endingWell, hhead, handedBy_endingWell]
                rw [handed, handed, observe_cons hstep, observe_cons hd, hby]
                exact congrArg _ (hhanded id)

/-! ## What can be relied on -/

/-- What can be relied on after the events `es`, in the state `c` to which they lead. -/
structure Faithful (config : ChannelConfig) (es : List (Event μ)) (c : Channel μ) : Prop where
  /-- Those are subscribed who joined and have not left, unless the channel was shut down. -/
  members_iff : ∀ id, id ∈ (Roll.of es).members ↔ .close ∉ es ∧ Roll.Joined es id
  /-- A send is accepted just when the channel was not shut down and somebody is subscribed. -/
  send_iff : ∀ m, (c.send m).1 = true ↔ .close ∉ es ∧ ∃ id, Roll.Joined es id
  /-- A send that is not accepted leaves nothing behind. -/
  send_refused : ∀ m, (c.send m).1 = false → (c.send m).2 = c
  /-- Subscribers are numbered in the order in which they come. -/
  subscribe_id : c.subscribe.1 = (Roll.of es).nextId
  /-- A subscription can be ended just by those who are subscribed. -/
  unsubscribe_iff : ∀ id, (c.unsubscribe id).1 = true ↔ id ∈ (Roll.of es).members
  /-- What is handed over is, in order, a beginning of what was sent during the subscription. -/
  handed_isPrefix : ∀ id, handed id (new config) es <+: ({} : Roll).meantFor id es
  /-- Only what was accepted is handed over. -/
  handed_accepted : ∀ id, (handed id (new config) es).Sublist (({} : Roll).accepted es)
  /-- Nothing gets lost, whoever leaves: what was not handed over yet still waits. -/
  nothing_lost : .cancel ∉ es → ∀ id,
    handed id (new config) es ++ c.pending id = ({} : Roll).meantFor id es
  /-- It makes no difference for anybody how deliveries end. -/
  endings : ∀ fs : List (Event μ), fs.map Event.endingWell = es.map Event.endingWell →
    (new config).run? fs = some c ∧
      ∀ id, handed id (new config) fs = handed id (new config) es
  /-- Before a message is handed over, a permit is taken for it: what was handed over are, in order,
  the messages that permits were taken for, but for one whose lane still has its permit. -/
  acquired_eq : ∀ id, acquired id (new config) es =
    handed id (new config) es ++ (c.granted? id).toList
  /-- Once the channel was given up, nothing is taken off a queue, nobody gets in line and no permit
  is taken. -/
  given_up : .cancel ∈ es → ∀ id,
    c.after? (.take id) = none ∧ c.after? (.lineUp id) = none ∧ c.after? (.acquire id) = none
  /-- And nothing more is handed over but, for each subscriber, the message for which its lane has a
  permit already, if there is one. -/
  handed_last : .cancel ∈ es → ∀ fs d, c.run? fs = some d → ∀ id,
    handed id (new config) (es ++ fs) <+: handed id (new config) es ++ (c.granted? id).toList
  /-- When the channel comes to rest, given up or not, all that permits were taken for was handed
  over. -/
  acquired_at_rest : c.Quiet → ∀ id,
    handed id (new config) es = acquired id (new config) es
  /-- When the channel comes to rest without being given up, everything was handed over. -/
  at_rest : .cancel ∉ es → c.Quiet → ∀ id,
    handed id (new config) es = ({} : Roll).meantFor id es

theorem unsubscribe_iff (h : c.Sound) : (c.unsubscribe id).1 = true ↔ id ∈ c.members := by
  have hmem : (c.unsubscribe id).1 = true ↔ ∃ l ∈ c.lanes, l.id = id ∧ l.subscribed = true := by
    simp [unsubscribe]
  rw [hmem, h.mem_members_iff]
  constructor
  · rintro ⟨l, hl, rfl, hs⟩
    exact ⟨l, h.lane?_of_mem hl, hs⟩
  · rintro ⟨l, hl, hs⟩
    exact ⟨l, mem_of_lane? hl, id_of_lane? hl, hs⟩

/-- A channel that could be created is faithful to its subscribers after every run. -/
theorem faithful_of_run? {config : ChannelConfig} {c₀ : Channel μ}
    (hcreate : create config = .ok c₀) (hc : c₀.run? es = some c) : Faithful config es c := by
  obtain rfl := eq_new_of_create hcreate
  have h₀ : (new config : Channel μ).Sound := sound_new config
  have h : c.Sound := h₀.run? hc
  have hroll : c.roll = Roll.of es := h₀.roll_run? hc
  have hmembers : c.members = (Roll.of es).members := congrArg Roll.members hroll
  have hgiven : c.cancelled = true ↔ .cancel ∈ es := by
    simpa [new] using cancelled_run? hc
  have hkept : .cancel ∉ es → c.cancelled = false := fun hcancel =>
    (not_cancelled_run? hc).2 ⟨rfl, hcancel⟩
  -- What was handed over and what still waits make up all that was sent during the subscription.
  have hlaw : .cancel ∉ es → ∀ id,
      handed id (new config) es ++ c.pending id = ({} : Roll).meantFor id es := by
    intro hcancel id
    have hrun : handed id (new config) es ++ c.pending id = _ :=
      h₀.handed_append_pending hc (hkept hcancel)
    rw [pending_new, List.nil_append] at hrun
    exact hrun
  have hacquired : ∀ id, acquired id (new config) es =
      handed id (new config) es ++ (c.granted? id).toList :=
    fun id => h₀.granted_append_acquired_run hc
  have hbegins : ∀ id, handed id (new config) es <+: ({} : Roll).meantFor id es := by
    intro id
    have hpre : handed id (new config) es <+: _ := h₀.handed_isPrefix hc
    rw [pending_new, List.nil_append] at hpre
    exact hpre
  refine
    { members_iff := fun _ => Roll.mem_members_of, send_iff := ?_, send_refused := ?_
      subscribe_id := congrArg Roll.nextId hroll, unsubscribe_iff := ?_, handed_isPrefix := hbegins
      handed_accepted := fun id => (hbegins id).sublist.trans (Roll.meantFor_sublist _)
      nothing_lost := hlaw, endings := ?_, acquired_eq := hacquired, given_up := ?_
      handed_last := ?_, acquired_at_rest := ?_, at_rest := ?_ }
  · intro m
    have hsend : (c.send m).1 = true ↔ c.accepts = true := by
      unfold send
      split <;> simp_all
    rw [hsend, h.accepts_iff, hmembers]
    constructor
    · intro hne
      obtain ⟨id, hid⟩ := List.exists_mem_of_ne_nil _ hne
      exact ⟨(Roll.mem_members_of.1 hid).1, id, (Roll.mem_members_of.1 hid).2⟩
    · rintro ⟨hopen, id, hjoined⟩
      exact List.ne_nil_of_mem (Roll.mem_members_of.2 ⟨hopen, hjoined⟩)
  · intro m hm
    unfold send at hm ⊢
    split at hm
    · cases hm
    · next hacc => rw [if_neg hacc]
  · intro id
    rw [unsubscribe_iff h, hmembers]
  · intro fs hfs
    obtain ⟨hrun, hhanded⟩ := run?_congr_ending (c := new config) hfs
    exact ⟨hrun.trans hc, hhanded⟩
  · intro hcancel id
    simp [after?, Channel.take?, Channel.lineUp?, Channel.acquire?, hgiven.2 hcancel]
  · intro hcancel fs d hd id
    rw [handed, observe_append hc]
    exact (List.prefix_append_right_inj _).2
      (h.handed_isPrefix_of_cancelled (hgiven.2 hcancel) hd)
  · intro hq id
    rw [hacquired id, h.granted?_of_quiet hq]
    exact (List.append_nil _).symm
  · intro hcancel hq id
    have hrun := hlaw hcancel id
    rw [h.pending_of_quiet (hkept hcancel) hq, List.append_nil] at hrun
    exact hrun

/-- A channel in which one delivery runs at a time. -/
def single : ChannelConfig := { name := "single", maxConcurrency := 1 }

/-- One message for two subscribers. The second one gets in line before the first one, which leaves
while it waits for the delivery of the other one; this panics. -/
def twoSubscribers : List (Event Nat) :=
  [.subscribe, .subscribe, .send 7, .take 1, .take 2, .lineUp 2, .lineUp 1, .acquire 2,
    .handOver 2, .unsubscribe 1, .begin 0, .finish 0 .panicked, .acquire 1, .handOver 1]

/-- The first one gets its message all the same. -/
theorem faithful_twoSubscribers : ∃ c₀ c, create single = .ok c₀ ∧
    c₀.run? twoSubscribers = some c ∧ Faithful single twoSubscribers c ∧
    handed 1 c₀ twoSubscribers = [7] :=
  ⟨new single, _, rfl, rfl, faithful_of_run? rfl rfl, rfl⟩

/-- A shutdown gives a channel up when a lane has its permit and has not handed its message over. -/
def crossing : List (Event Nat) :=
  [.subscribe, .send 7, .take 1, .lineUp 1, .acquire 1, .close, .cancel]

/-- More permits than there can be. -/
def crowded : ChannelConfig := { name := "crowded", maxConcurrency := 2305843009213693952 }

/-- The message is handed over all the same. And where there would be too many permits, there is no
channel. -/
theorem handed_crossing :
    (∃ c₀ c d, create single = .ok c₀ ∧ c₀.run? crossing = some c ∧ c.cancelled = true ∧
      handed 1 c₀ crossing = [] ∧ c.run? [.handOver 1] = some d ∧
      handed 1 c₀ (crossing ++ [.handOver 1]) = [7]) ∧
    (create crowded : Except Panic (Channel Nat)) = .error tooManyPermits :=
  ⟨⟨_, _, _, rfl, rfl, rfl, rfl, rfl, rfl⟩, if_neg (by decide)⟩

end Channel

end Switchboard
