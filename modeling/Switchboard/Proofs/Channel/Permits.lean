/-
# Switchboard.Proofs.Channel.Permits -- how many deliveries run at a time

A lane takes a permit and passes it on with its message to a delivery, which holds it until it ends,
in one of three ways. `Limited` collects what that comes to after any run from the creation of a
channel, for all subscribers together: no permit is lost or doubled, so no more deliveries run at a
time than the settings say.

Where that is one delivery, what was handed over and what the subscribers are done with differ by
nothing but the delivery that runs (`running_append_handed`). So everything that is known of the
order in which messages are handed over is known of the order in which they are done with.
-/

import Switchboard.Proofs.Channel.Delivery

namespace Switchboard

namespace Channel

variable {μ : Type} {c d : Channel μ} {e : Event μ} {es fs : List (Event μ)} {id n : Nat}

/-! ## Starts and ends -/

/-- Whether a delivery ends. -/
def Event.isFinish : Event μ → Bool
  | .finish _ _ => true
  | _ => false

/-- The messages that a subscriber is done with at an event, however the delivery ended. -/
def finishedBy (id : Nat) (c : Channel μ) (e : Event μ) (_ : Channel μ) : List μ :=
  match e with
  | .finish n _ => messagesFor id (c.delivery? n).toList
  | _ => []

/-- The messages that a subscriber is done with, in order. -/
def finished (id : Nat) (c : Channel μ) (es : List (Event μ)) : List μ :=
  c.observe (finishedBy id) es

/-- A delivery that begins stays what it is for its subscriber. -/
theorem messagesFor_begun (xs : List (Delivery μ)) :
    messagesFor id (xs.map fun y => if y.number = n then { y with begun := true } else y) =
      messagesFor id xs := by
  induction xs with
  | nil => rfl
  | cons y ys ih =>
      unfold messagesFor at ih ⊢
      by_cases hn : y.number = n
      · by_cases hid : y.lane = id <;> simpa [hn, hid] using ih
      · by_cases hid : y.lane = id <;> simpa [hn, hid] using ih

theorem Event.isStart_eq_false (h : ∀ i, e ≠ .handOver i) : e.isStart = false := by
  cases e with
  | handOver i => exact absurd rfl (h i)
  | _ => rfl

theorem Event.isFinish_eq_false (h : ∀ n ending, e ≠ .finish n ending) : e.isFinish = false := by
  cases e with
  | finish n ending => exact absurd rfl (h n ending)
  | _ => rfl

theorem finishedBy_eq_nil (h : e.isFinish = false) : finishedBy id c e d = [] := by
  cases e with
  | finish n ending => cases h
  | _ => rfl

/-- Where no delivery ends, nobody is done with anything. -/
theorem finished_eq_nil (h : ∀ n ending, .finish n ending ∉ es) : finished id c es = [] := by
  refine observe_eq_nil fun e he c d => finishedBy_eq_nil (Event.isFinish_eq_false ?_)
  rintro n ending rfl
  exact h n ending he

/-- A run counts the deliveries that start in it. -/
theorem started_run? (hd : c.run? es = some d) :
    d.started = c.started + es.countP Event.isStart := by
  induction es generalizing c with
  | nil => cases hd; rfl
  | cons e es ih =>
      obtain ⟨b, hb, hrun⟩ := run?_cons.1 hd
      have hstep := (fields_after? hb).2.1
      rw [ih hrun, List.countP_cons]
      omega

/-- No event but its own end stops a delivery that runs. -/
theorem mem_running_after? (hd : c.after? e = some d) (hn : n ∈ c.running.map Delivery.number)
    (he : ∀ ending, e ≠ .finish n ending) : n ∈ d.running.map Delivery.number := by
  rcases running_after? hd with ⟨i, l, m, rfl, _, _, hrun⟩ | ⟨k, x, rfl, _, _, hrun⟩ |
    ⟨k, ending, x, rfl, _, _, hrun⟩ | ⟨_, _, _, hrun⟩
  · rw [hrun, List.map_append]
    exact List.mem_append_left _ hn
  · have hnumbers : d.running.map Delivery.number = c.running.map Delivery.number := by
      rw [hrun, List.map_map]
      refine List.map_congr_left fun y _ => ?_
      show (if y.number = k then _ else y).number = y.number
      split <;> rfl
    rw [hnumbers]
    exact hn
  · obtain ⟨y, hy, rfl⟩ := List.mem_map.1 hn
    have hne : y.number ≠ k := by
      rintro rfl
      exact he ending rfl
    rw [hrun]
    exact List.mem_map_of_mem (List.mem_filter.2 ⟨hy, by simpa using hne⟩)
  · rw [hrun]
    exact hn

theorem mem_running_run? (hd : c.run? es = some d) (hn : n ∈ c.running.map Delivery.number)
    (hes : ∀ ending, .finish n ending ∉ es) : n ∈ d.running.map Delivery.number := by
  induction es generalizing c with
  | nil => cases hd; exact hn
  | cons e es ih =>
      obtain ⟨b, hb, hrun⟩ := run?_cons.1 hd
      refine ih hrun ?_ fun ending hin => hes ending (List.mem_cons_of_mem _ hin)
      refine mem_running_after? hb hn ?_
      rintro ending rfl
      exact hes ending List.mem_cons_self

namespace Sound

/-- A delivery that ends is the only one that goes away. -/
theorem running_perm_of_finish? (h : c.Sound) {x : Delivery μ} (hx : c.delivery? n = some x)
    (hrun : d.running = c.running.filter fun y => y.number ≠ n) :
    c.running.Perm (x :: d.running) := by
  have hperm := perm_cons_filter_key Delivery.number h.numbers_nodup (mem_of_delivery? hx)
  rw [number_of_delivery? hx, ← hrun] at hperm
  exact hperm

/-- A lane that has a permit can hand its message over, and then the delivery that starts has the
permit. -/
theorem exists_handOver (h : c.Sound) {m : μ} (hm : c.granted? id = some m) :
    ∃ d, c.after? (.handOver id) = some d ∧ d.free = c.free ∧ d.permitted + 1 = c.permitted ∧
      d.running = c.running ++ [{ number := c.started, lane := id, message := m }] := by
  obtain ⟨l, hl, hgranted⟩ := Option.bind_eq_some_iff.1 hm
  have hheld : l.held = some { message := m, permitted := true } := Lane.granted?_eq_some hgranted
  have hpermitted : l.isPermitted = true := by simp [Lane.isPermitted, hheld]
  obtain ⟨d, hd⟩ := Option.ne_none_iff_exists'.1 (handOver?_ne_none hl hpermitted)
  obtain ⟨l', m', hl', hm', rfl⟩ := handOver?_eq_some hd
  rw [hl] at hl'
  cases hl'
  rw [hheld] at hm'
  cases hm'
  have hcount := h.permitted_mapLane hl fun l => { l with held := none }
  rw [hpermitted, if_pos rfl] at hcount
  exact ⟨_, hd, rfl, hcount, rfl⟩

/-- A delivery that has begun can end in every way, and then its permit, and no other one, is
free. -/
theorem exists_finish (h : c.Sound) {x : Delivery μ} (hx : x ∈ c.running) (hbegun : x.begun = true)
    (ending : Ending) : ∃ d, c.after? (.finish x.number ending) = some d ∧
      d.free = c.free + 1 ∧ c.running.Perm (x :: d.running) := by
  obtain ⟨d, hd⟩ : ∃ d, c.after? (.finish x.number ending) = some d := by
    obtain ⟨number, lane, message, begun⟩ := x
    subst hbegun
    simp [Channel.after?, Channel.finish?, h.delivery?_of_mem hx]
  obtain ⟨y, hy, _, heq⟩ := finish?_eq_some (show c.finish? x.number ending = some d from hd)
  rw [h.delivery?_of_mem hx] at hy
  cases hy
  exact ⟨d, hd, by rw [heq], h.running_perm_of_finish? (h.delivery?_of_mem hx) (by rw [heq])⟩

/-- The step: the deliveries that run before an event, and one that starts with it, run after it or
have ended with it. -/
theorem count_running (h : c.Sound) (hd : c.after? e = some d) :
    (if e.isStart then 1 else 0) + c.running.length =
      (if e.isFinish then 1 else 0) + d.running.length := by
  rcases running_after? hd with ⟨i, l, m, rfl, _, _, hrun⟩ | ⟨n, x, rfl, _, _, hrun⟩ |
    ⟨n, ending, x, rfl, hx, _, hrun⟩ | ⟨hstart, _, hfinish, hrun⟩
  · have hlen : d.running.length = c.running.length + 1 := by simp [hrun]
    simp only [Event.isStart, Event.isFinish, if_true, Bool.false_eq_true, if_false]
    omega
  · simp [hrun, Event.isStart, Event.isFinish]
  · have hlen := (h.running_perm_of_finish? hx hrun).length_eq
    rw [List.length_cons] at hlen
    simp only [Event.isStart, Event.isFinish, if_true, Bool.false_eq_true, if_false]
    omega
  · simp [Event.isStart_eq_false hstart, Event.isFinish_eq_false hfinish, hrun]

/-- The run: every delivery that was started runs or has ended. -/
theorem count_running_run (h : c.Sound) (hd : c.run? es = some d) :
    es.countP Event.isStart + c.running.length = es.countP Event.isFinish + d.running.length := by
  induction es generalizing c with
  | nil => cases hd; rfl
  | cons e es ih =>
      obtain ⟨b, hb, hrun⟩ := run?_cons.1 hd
      have hstep := h.count_running hb
      have hrest := ih (h.after? hb) hrun
      rw [List.countP_cons, List.countP_cons]
      omega

/-! ## One delivery at a time -/

/-- A lane with a permit is counted. -/
theorem permitted_pos {l : Lane μ} {i : Nat} (hl : c.lane? i = some l)
    (hpermitted : l.isPermitted = true) : 0 < c.permitted :=
  List.countP_pos_iff.2 ⟨l, mem_of_lane? hl, hpermitted⟩

/-- Where there is one permit, nothing runs when a delivery starts. -/
theorem running_of_handOver (h : c.Sound) (hone : c.config.permits = 1) {i : Nat}
    (hd : c.after? (.handOver i) = some d) : c.running = [] := by
  obtain ⟨l, m, hl, hm, _⟩ := handOver?_eq_some hd
  have hpos := permitted_pos hl (by simp [Lane.isPermitted, hm])
  have hpermits := h.permits
  refine List.eq_nil_of_length_eq_zero ?_
  omega

/-- Where there is one permit, a delivery that runs is all that runs. -/
theorem running_of_delivery? (h : c.Sound) (hone : c.config.permits = 1) {x : Delivery μ}
    (hx : c.delivery? n = some x) : c.running = [x] := by
  have hmem := mem_of_delivery? hx
  have hpermits := h.permits
  have hlen : c.running.length ≤ 1 := by omega
  obtain ⟨y, hy⟩ := List.length_eq_one_iff.1 (Nat.le_antisymm hlen (List.length_pos_of_mem hmem))
  rw [hy, List.mem_singleton] at hmem
  rw [hy, hmem]

/-- The step, where there is one permit: what a subscriber is given and what it is done with differ
by the delivery that runs. -/
theorem running_append_handedBy (h : c.Sound) (hone : c.config.permits = 1)
    (hd : c.after? e = some d) :
    messagesFor id c.running ++ handedBy id c e d =
      finishedBy id c e d ++ messagesFor id d.running := by
  rcases running_after? hd with ⟨i, l, m, rfl, _, _, hrun⟩ | ⟨n, x, rfl, _, _, hrun⟩ |
    ⟨n, ending, x, rfl, hx, _, hrun⟩ | ⟨hstart, _, hfinish, hrun⟩
  · have hnil := h.running_of_handOver hone hd
    have hdrop : d.running.drop c.running.length = d.running := by simp [hnil]
    rw [handedBy, hdrop, hnil]
    rfl
  · have hsame : messagesFor id d.running = messagesFor id c.running := by
      rw [hrun, messagesFor_begun]
    rw [handedBy_eq_nil hd (by simp), hsame, List.append_nil]
    rfl
  · have hall := h.running_of_delivery? hone hx
    have hnil : d.running = [] := by simp [hrun, hall, number_of_delivery? hx]
    rw [handedBy_eq_nil hd (by simp), hnil, hall]
    simp [finishedBy, hx, messagesFor]
  · rw [handedBy_eq_nil hd hstart, finishedBy_eq_nil (Event.isFinish_eq_false hfinish), hrun,
      List.append_nil]
    rfl

/-- The step, where there is one permit: what a subscriber is given and what it begins differ by the
delivery that has not begun. -/
theorem unbegun_append_handedBy (h : c.Sound) (hone : c.config.permits = 1)
    (hd : c.after? e = some d) :
    c.unbegun id ++ handedBy id c e d = begunBy id c e d ++ d.unbegun id := by
  have hunbegun : (c.unbegun id).length ≤ c.running.length := by
    simpa [unbegun, messagesFor] using
      Nat.le_trans (List.length_filter_le _ _) (List.length_filter_le _ _)
  have hlen : (c.unbegun id ++ handedBy id c e d).length ≤ 1 := by
    have hpermits := h.permits
    rw [List.length_append]
    by_cases hstart : ∃ i, e = .handOver i
    · obtain ⟨i, rfl⟩ := hstart
      have hhanded : (handedBy id c (.handOver i) d).length ≤ 1 := by
        obtain ⟨l, m, hl, hm, _⟩ := handOver?_eq_some hd
        rw [handedBy_handOver hl hm hd]
        split <;> simp
      rw [h.running_of_handOver hone hd, List.length_nil] at hunbegun
      omega
    · rw [handedBy_eq_nil hd fun i heq => hstart ⟨i, heq⟩, List.length_nil]
      omega
  -- Two lists of one member at most that have the same members are equal.
  have hperm : (c.unbegun id ++ handedBy id c e d).Perm (begunBy id c e d ++ d.unbegun id) :=
    h.unbegun_append_handed hd
  rcases hleft : c.unbegun id ++ handedBy id c e d with _ | ⟨x, _ | ⟨y, xs⟩⟩
  · rw [hleft] at hperm
    exact (List.nil_perm.1 hperm).symm
  · rw [hleft] at hperm
    exact List.singleton_perm.1 hperm
  · simp [hleft] at hlen

/-- A channel with one permit. -/
def Single (c : Channel μ) : Prop := c.Sound ∧ c.config.permits = 1

theorem single_after? (h : Single c) (hd : c.after? e = some d) : Single d :=
  ⟨h.1.after? hd, by rw [config_run? (run?_singleton.trans hd), h.2]⟩

/-- The run, where there is one permit: subscribers are done with what they were given, in the same
order, but for the delivery that runs. -/
theorem running_append_handed (h : c.Sound) (hone : c.config.permits = 1)
    (hd : c.run? es = some d) :
    messagesFor id c.running ++ handed id c es = finished id c es ++ messagesFor id d.running :=
  observe_conserved (fun c => messagesFor id c.running) Single single_after?
    (fun hc he => hc.1.running_append_handedBy hc.2 he) ⟨h, hone⟩ hd

/-- And they begin what they were given, in the same order, but for a delivery that has not
begun. -/
theorem unbegun_append_handed_eq (h : c.Sound) (hone : c.config.permits = 1)
    (hd : c.run? es = some d) :
    c.unbegun id ++ handed id c es = begun id c es ++ d.unbegun id :=
  observe_conserved (fun c => c.unbegun id) Single single_after?
    (fun hc he => hc.1.unbegun_append_handedBy hc.2 he) ⟨h, hone⟩ hd

/-- Where there is one permit, a delivery has ended before the next one starts. -/
theorem exists_finish_of_start (h : c.Sound) (hone : c.config.permits = 1) {i j : Nat}
    (hd : c.run? (.handOver i :: (es ++ .handOver j :: fs)) = some d) :
    ∃ ending, .finish c.started ending ∈ es := by
  obtain ⟨b, hb, hrun⟩ := run?_cons.1 hd
  obtain ⟨a, hes, hrest⟩ := run?_append.1 hrun
  obtain ⟨_, ha, _⟩ := run?_cons.1 hrest
  -- The delivery is on its way from its start on.
  have hnew : c.started ∈ b.running.map Delivery.number := by
    obtain ⟨l, m, _, _, rfl⟩ := handOver?_eq_some hb
    simp
  by_contra hnone
  have hstays : c.started ∈ a.running.map Delivery.number :=
    mem_running_run? hes hnew fun ending hin => hnone ⟨ending, hin⟩
  have hsound : a.Sound := (h.after? hb).run? hes
  have hconfig : a.config = c.config := by
    rw [config_run? hes, config_run? (run?_singleton.trans hb)]
  rw [hsound.running_of_handOver (hconfig ▸ hone) ha] at hstays
  cases hstays

end Sound

/-! ## What the settings limit -/

theorem permits_of_le_one {config : ChannelConfig} (h : config.maxConcurrency ≤ 1) :
    config.permits = 1 := by
  have hle : config.maxConcurrency.toNat ≤ 1 := UInt64.le_iff_toNat_le.1 h
  exact Nat.max_eq_left hle

section New

variable {config : ChannelConfig} (hone : config.permits = 1) (hrun : (new config).run? es = some c)

include hone hrun

/-- In a new channel nothing runs, so that all that was handed over is done with or runs. -/
theorem handed_eq_finished_append :
    handed id (new config) es = finished id (new config) es ++ messagesFor id c.running :=
  (sound_new config).running_append_handed hone hrun

/-- Subscribers are done with what was meant for them, in the order in which it was sent. -/
theorem finished_isPrefix : finished id (new config) es <+: ({} : Roll).meantFor id es := by
  have hpre : handed id (new config) es <+: _ := (sound_new config).handed_isPrefix hrun
  rw [pending_new, List.nil_append, handed_eq_finished_append hone hrun] at hpre
  exact (List.prefix_append _ _).trans hpre

/-- At rest they are done with all of it. -/
theorem finished_of_quiet (hcancelled : c.cancelled = false) (hq : c.Quiet) :
    finished id (new config) es = ({} : Roll).meantFor id es := by
  have h : c.Sound := (sound_new config).run? hrun
  have hlaw : handed id (new config) es ++ c.pending id = _ :=
    (sound_new config).handed_append_pending hrun hcancelled
  have hnone : messagesFor id c.running = [] := by
    rw [h.running_of_quiet hq]
    rfl
  rw [h.pending_of_quiet hcancelled hq, pending_new, handed_eq_finished_append hone hrun, hnone,
    List.append_nil, List.append_nil, List.nil_append] at hlaw
  exact hlaw

/-- Each delivery has ended before the next one starts. -/
theorem exists_finish_between {before between after : List (Event μ)} {i j : Nat}
    (hes : es = before ++ .handOver i :: (between ++ .handOver j :: after)) :
    ∃ ending, .finish (before.countP Event.isStart) ending ∈ between := by
  subst hes
  obtain ⟨b, hbefore, hrest⟩ := run?_append.1 hrun
  have hb : b.Sound := (sound_new config).run? hbefore
  have hpermits : b.config.permits = 1 := by
    rw [config_run? hbefore]
    exact hone
  obtain ⟨ending, hin⟩ := hb.exists_finish_of_start hpermits hrest
  rw [started_run? hbefore, show (new config : Channel μ).started = 0 from rfl,
    Nat.zero_add] at hin
  exact ⟨ending, hin⟩

end New

/-- What the settings limit, after the events `es`, in the state `c` to which they lead. -/
structure Limited (config : ChannelConfig) (es : List (Event μ)) (c : Channel μ) : Prop where
  /-- The permits that are free and the deliveries that hold one, those that are about to be handed
  over and those that run, are as many as the settings say. -/
  conserved : c.free + c.permitted + c.running.length = max 1 config.maxConcurrency.toNat
  /-- Never do more deliveries run than that, whoever they are for. -/
  atMost : c.running.length ≤ max 1 config.maxConcurrency.toNat
  /-- Every delivery that was started runs or has ended. -/
  underway : es.countP Event.isStart = es.countP Event.isFinish + c.running.length
  /-- A lane that has a permit can hand its message over, and then the delivery that starts has the
  permit. -/
  passedOn : ∀ id m, c.granted? id = some m → ∃ d, c.after? (.handOver id) = some d ∧
    d.free = c.free ∧ d.permitted + 1 = c.permitted ∧
    d.running = c.running ++ [{ number := c.started, lane := id, message := m }]
  /-- A delivery that was begun can end in every way, and then its permit, and no other one, is
  free. -/
  returned : ∀ x ∈ c.running, x.begun = true → ∀ ending, ∃ d,
    c.after? (.finish x.number ending) = some d ∧ d.free = c.free + 1 ∧
      c.running.Perm (x :: d.running)
  /-- Where one delivery runs at a time, the one that was started last ends before the next one
  starts. Deliveries are numbered from 0 on, in the order in which they start. -/
  alone : config.maxConcurrency ≤ 1 → ∀ before i between j after,
    es = before ++ .handOver i :: (between ++ .handOver j :: after) →
      ∃ ending, .finish (before.countP Event.isStart) ending ∈ between
  /-- Where one delivery runs at a time, subscribers are done with their messages in the order in
  which these were sent. -/
  inOrder : config.maxConcurrency ≤ 1 → ∀ id,
    finished id (new config) es <+: ({} : Roll).meantFor id es
  /-- When such a channel comes to rest without being given up, they are done with all of them. -/
  atRest : config.maxConcurrency ≤ 1 → .cancel ∉ es → c.Quiet → ∀ id,
    finished id (new config) es = ({} : Roll).meantFor id es

/-- A channel that could be created keeps to its settings in every run. -/
theorem limited_of_run? {config : ChannelConfig} {c₀ : Channel μ}
    (hcreate : create config = .ok c₀) (hrun : c₀.run? es = some c) : Limited config es c := by
  obtain rfl := eq_new_of_create hcreate
  have h₀ : (new config : Channel μ).Sound := sound_new config
  have h : c.Sound := h₀.run? hrun
  have hconserved : c.free + c.permitted + c.running.length = config.permits := by
    rw [h.permits, config_run? hrun]
    rfl
  refine
    { conserved := hconserved, atMost := ?_, underway := h₀.count_running_run hrun
      passedOn := fun id m hm => h.exists_handOver hm
      returned := fun x hx hbegun ending => h.exists_finish hx hbegun ending
      alone := fun hle before i between j after hes =>
        exists_finish_between (permits_of_le_one hle) hrun hes
      inOrder := fun hle id => finished_isPrefix (permits_of_le_one hle) hrun
      atRest := fun hle hcancel hq id =>
        finished_of_quiet (permits_of_le_one hle) hrun
          ((not_cancelled_run? hrun).2 ⟨rfl, hcancel⟩) hq }
  have hmax : config.permits = max 1 config.maxConcurrency.toNat := rfl
  omega

/-- Two messages for two subscribers of a channel in which one delivery runs at a time. The first
delivery gives an error and the second one panics. -/
def failing : List (Event Nat) :=
  [.subscribe, .subscribe, .send 7, .send 8, .take 1, .lineUp 1, .take 2, .lineUp 2, .acquire 1,
    .handOver 1, .begin 0, .finish 0 .failed, .acquire 2, .handOver 2, .take 1, .lineUp 1,
    .begin 1, .finish 1 .panicked, .acquire 1, .handOver 1, .begin 2]

/-- Both are done with the first message and the first one is at the second message, with the one
permit. -/
theorem limited_failing : ∃ c₀ c : Channel Nat, create single = .ok c₀ ∧
    c₀.run? failing = some c ∧ Limited single failing c ∧
    c.free = 0 ∧ c.running.map Delivery.message = [8] ∧
    finished 1 c₀ failing = [7] ∧ finished 2 c₀ failing = [7] :=
  ⟨new single, _, rfl, rfl, limited_of_run? rfl rfl, rfl, rfl, rfl, rfl⟩

end Channel

end Switchboard
