/-
# Switchboard.Proofs.Config.Settings -- which settings are read from an object

A setting is what its own field says, in its own section, or else its default. This is what it means
that settings `Follow` the fields of an object, and a decoder that accepts an object gives just the
settings that do (`BusConfig.decode_iff`). As settings that follow the same fields are equal, what
is written can be read in one way only, and it is easy to see that the settings that were written
follow it, be it a value or a text (`BusConfig.coding`).

A section is read twice: its name by itself, and all its other fields as settings of a channel with
the common defaults. The second reading never meets a name, so the default name of a channel is lost
on the way, and the one of the section counts.
-/

import Switchboard.Config
import Switchboard.Proofs.Config.Durations
import Switchboard.Proofs.Rpc.Decoding

namespace Switchboard

/-! ## Single settings -/

/-- A value that may be null is null or what it is decoded to. -/
theorem Json.Doc.asOption_eq_ok {α : Type} {decode : Json.Doc → Except Json.DecodeError α}
    {d : Json.Doc} {a : Option α} : d.asOption decode = .ok a ↔
      d = .null ∧ a = none ∨ d ≠ .null ∧ ∃ b, decode d = .ok b ∧ a = some b := by
  have hmap {x : Except Json.DecodeError α} :
      x.map some = .ok a ↔ ∃ b, x = .ok b ∧ a = some b := by
    constructor
    · intro h
      obtain ⟨b, hb, rfl⟩ := map_eq_ok h
      exact ⟨b, hb, rfl⟩
    · rintro ⟨b, rfl, rfl⟩
      rfl
  cases d with
  | null => simp [asOption, eq_comm]
  | _ => simp [asOption, hmap]

/-- What the slot of a field holds: what the field is decoded to, or nothing if it is absent. -/
def Json.Slot.Holds {α : Type} (decode : Json.Doc → Except Json.DecodeError α)
    (field : Option Json.Doc) (slot : Json.Slot α) : Prop :=
  field = none ∧ slot = none ∨ ∃ d a, field = some d ∧ decode d = .ok a ∧ slot = some a

/-- There is one thing that a slot can hold. -/
theorem Json.Slot.Holds.unique {α : Type} {decode : Json.Doc → Except Json.DecodeError α}
    {field : Option Json.Doc} {slot slot' : Json.Slot α} (h : slot.Holds decode field)
    (h' : slot'.Holds decode field) : slot = slot' := by
  rcases h with ⟨rfl, rfl⟩ | ⟨d, a, rfl, ha, rfl⟩
  · rcases h' with ⟨_, rfl⟩ | ⟨_, _, hfield, _⟩
    · rfl
    · cases hfield
  · rcases h' with ⟨hfield, _⟩ | ⟨_, a', hfield, ha', rfl⟩
    · cases hfield
    · cases hfield
      rw [ha] at ha'
      cases ha'
      rfl

/-- What a slot can hold can be decoded. -/
theorem Json.Slot.Holds.isOk {α : Type} {decode : Json.Doc → Except Json.DecodeError α}
    {d : Json.Doc} {slot : Json.Slot α} (h : slot.Holds decode (some d)) :
    (decode d).isOk = true := by
  rcases h with ⟨hnone, _⟩ | ⟨_, a, hfield, ha, _⟩
  · cases hnone
  · cases hfield
    exact Json.isOk_iff.2 ⟨a, ha⟩

/-- Reading the field `name` fills a slot, which is empty before, and reading others does not touch
it. -/
structure Json.Fills {σ α : Type} (step : σ → String → Json.Doc → Except Json.DecodeError σ)
    (name : String) (slot : σ → Json.Slot α) (decode : Json.Doc → Except Json.DecodeError α) :
    Prop where
  own : ∀ {s t : σ} {d : Json.Doc}, step s name d = .ok t →
    slot s = none ∧ ∃ v, decode d = .ok v ∧ slot t = some v
  other : ∀ {s t : σ} {k : String} {d : Json.Doc}, k ≠ name → step s k d = .ok t →
    slot t = slot s

/-- So an empty slot holds afterwards what its field is decoded to. -/
theorem Json.Fills.holds {σ α : Type} {step : σ → String → Json.Doc → Except Json.DecodeError σ}
    {name : String} {slot : σ → Json.Slot α} {decode : Json.Doc → Except Json.DecodeError α}
    (h : Json.Fills step name slot decode) {s t : σ} {fields : List (String × Json.Doc)}
    (hs : slot s = none) (hfold : Json.foldFields step s fields = .ok t) :
    (slot t).Holds decode (Entries.find? name fields) := by
  rcases Json.slot_of_foldDocs name slot decode h.own h.other hfold with
    ⟨hfind, hslot⟩ | ⟨d, v, hfind, _, hv, hslot⟩
  · exact .inl ⟨hfind, hslot.trans hs⟩
  · exact .inr ⟨d, v, hfind, hv, hslot⟩

namespace ChannelConfig

variable {d : Json.Doc}

theorem decodeName_eq_ok {s : String} : decodeName d = .ok s ↔ d = .string s := by
  unfold decodeName Json.Doc.asText
  constructor
  · intro h
    split at h
    · cases h
      rfl
    · cases h
  · rintro rfl
    rfl

/-- A number of deliveries is an integer of sixty-four bits without sign. -/
theorem decodeConcurrency_eq_ok {n : UInt64} :
    decodeConcurrency d = .ok n ↔ d = .integer n.toNat := by
  constructor
  · intro h
    obtain ⟨i, hi, rfl⟩ := map_eq_ok h
    unfold Json.Doc.asInteger at hi
    split at hi
    · split at hi
      · next hrange =>
          cases hi
          simp only [Bool.and_eq_true, decide_eq_true_eq] at hrange
          have hlt : i.toNat < UInt64.size := by omega
          rw [UInt64.toNat_ofNat_of_lt' hlt, Int.toNat_of_nonneg hrange.1]
      · cases hi
    · cases hi
  · rintro rfl
    have hlt : n.toNat < UInt64.size := n.toNat_lt_size
    have hrange : (0 ≤ (n.toNat : Int) && (n.toNat : Int) ≤ UInt64.size - 1) = true := by
      simp only [Bool.and_eq_true, decide_eq_true_eq]
      omega
    have hread : (Json.Doc.integer n.toNat).asInteger 0 (UInt64.size - 1) "usize" = .ok n.toNat :=
      if_pos hrange
    rw [decodeConcurrency, hread]
    simp [Except.map]

theorem decodeDuration_eq_ok {t : Duration} :
    decodeDuration d = .ok t ↔ ∃ s, d = .string s ∧ Duration.ofText? s = some t := by
  constructor
  · intro h
    obtain ⟨s, hs, hread⟩ := bind_eq_ok h
    cases d <;> cases hs
    split at hread
    · next heq =>
        cases hread
        exact ⟨s, rfl, heq⟩
    · cases hread
  · rintro ⟨s, rfl, hread⟩
    simp [decodeDuration, Json.Doc.asText, hread, bind, Except.bind]

/-! ## The settings of a channel -/

/-- The settings of a channel are those of an object: each of them is what its own field says, or
its default. -/
structure Follows (defaultName : String) (fields : List (String × Json.Doc)) (c : ChannelConfig) :
    Prop where
  /-- A name that is null counts as absent. -/
  name : (Entries.find? "name" fields = none ∨ Entries.find? "name" fields = some .null) ∧
      c.name = defaultName ∨
    Entries.find? "name" fields = some (.string c.name)
  maxConcurrency : Entries.find? "max_concurrency" fields = none ∧ c.maxConcurrency = 16 ∨
    Entries.find? "max_concurrency" fields = some (.integer c.maxConcurrency.toNat)
  /-- A time limit that is null is none. -/
  shutdownTimeout :
    Entries.find? "shutdown_timeout" fields = none ∧ c.shutdownTimeout = some (.ofSeconds 5) ∨
    Entries.find? "shutdown_timeout" fields = some .null ∧ c.shutdownTimeout = none ∨
    ∃ s t, Entries.find? "shutdown_timeout" fields = some (.string s) ∧
      Duration.ofText? s = some t ∧ c.shutdownTimeout = some t

section Follows

variable {defaultName : String} {fields : List (String × Json.Doc)} {c c' : ChannelConfig}

/-- In terms of the slots of a section. -/
theorem follows_iff : c.Follows defaultName fields ↔
    ∃ name maxConcurrency shutdownTimeout,
      Json.Slot.Holds (·.asOption decodeName) (Entries.find? "name" fields) name ∧
      Json.Slot.Holds decodeConcurrency (Entries.find? "max_concurrency" fields) maxConcurrency ∧
      Json.Slot.Holds decodeTimeout (Entries.find? "shutdown_timeout" fields) shutdownTimeout ∧
      c = ⟨(name.getD none).getD defaultName, maxConcurrency.getD 16,
        shutdownTimeout.getD (some (.ofSeconds 5))⟩ := by
  constructor
  · intro h
    obtain ⟨name, hname, hnameEq⟩ : ∃ slot : Json.Slot (Option String),
        slot.Holds (·.asOption decodeName) (Entries.find? "name" fields) ∧
          c.name = (slot.getD none).getD defaultName := by
      rcases h.name with ⟨hfind | hfind, heq⟩ | hfind
      · exact ⟨none, .inl ⟨hfind, rfl⟩, heq⟩
      · exact ⟨some none, .inr ⟨_, _, hfind, rfl, rfl⟩, heq⟩
      · exact ⟨some (some c.name), .inr ⟨_, _, hfind, rfl, rfl⟩, rfl⟩
    obtain ⟨maxConcurrency, hconcurrency, hconcurrencyEq⟩ : ∃ slot : Json.Slot UInt64,
        slot.Holds decodeConcurrency (Entries.find? "max_concurrency" fields) ∧
          c.maxConcurrency = slot.getD 16 := by
      rcases h.maxConcurrency with ⟨hfind, heq⟩ | hfind
      · exact ⟨none, .inl ⟨hfind, rfl⟩, heq⟩
      · exact ⟨some c.maxConcurrency, .inr ⟨_, _, hfind, decodeConcurrency_eq_ok.2 rfl, rfl⟩, rfl⟩
    obtain ⟨shutdownTimeout, htimeout, htimeoutEq⟩ : ∃ slot : Json.Slot (Option Duration),
        slot.Holds decodeTimeout (Entries.find? "shutdown_timeout" fields) ∧
          c.shutdownTimeout = slot.getD (some (.ofSeconds 5)) := by
      rcases h.shutdownTimeout with ⟨hfind, heq⟩ | ⟨hfind, heq⟩ | ⟨s, t, hfind, hread, heq⟩
      · exact ⟨none, .inl ⟨hfind, rfl⟩, heq⟩
      · exact ⟨some none, .inr ⟨_, _, hfind, rfl, rfl⟩, heq⟩
      · have ht : decodeDuration (.string s) = .ok t := decodeDuration_eq_ok.2 ⟨s, rfl, hread⟩
        have hsome : decodeTimeout (.string s) = .ok (some t) :=
          Json.Doc.asOption_eq_ok.2 (.inr ⟨nofun, t, ht, rfl⟩)
        exact ⟨some (some t), .inr ⟨_, _, hfind, hsome, rfl⟩, heq⟩
    refine ⟨name, maxConcurrency, shutdownTimeout, hname, hconcurrency, htimeout, ?_⟩
    rw [← hnameEq, ← hconcurrencyEq, ← htimeoutEq]
  · rintro ⟨name, maxConcurrency, shutdownTimeout, hname, hconcurrency, htimeout, rfl⟩
    refine ⟨?_, ?_, ?_⟩
    · rcases hname with ⟨hfind, rfl⟩ | ⟨d, o, hfind, ho, rfl⟩
      · exact .inl ⟨.inl hfind, rfl⟩
      · rcases Json.Doc.asOption_eq_ok.1 ho with ⟨rfl, rfl⟩ | ⟨_, s, hs, rfl⟩
        · exact .inl ⟨.inr hfind, rfl⟩
        · rw [decodeName_eq_ok.1 hs] at hfind
          exact .inr hfind
    · rcases hconcurrency with ⟨hfind, rfl⟩ | ⟨d, n, hfind, hn, rfl⟩
      · exact .inl ⟨hfind, rfl⟩
      · rw [decodeConcurrency_eq_ok.1 hn] at hfind
        exact .inr hfind
    · rcases htimeout with ⟨hfind, rfl⟩ | ⟨d, o, hfind, ho, rfl⟩
      · exact .inl ⟨hfind, rfl⟩
      · rcases Json.Doc.asOption_eq_ok.1 ho with ⟨rfl, rfl⟩ | ⟨_, t, ht, rfl⟩
        · exact .inr (.inl ⟨hfind, rfl⟩)
        · obtain ⟨s, rfl, hread⟩ := decodeDuration_eq_ok.1 ht
          exact .inr (.inr ⟨s, t, hfind, hread, rfl⟩)

/-- There is one way to follow an object. -/
theorem Follows.unique (h : c.Follows defaultName fields) (h' : c'.Follows defaultName fields) :
    c = c' := by
  obtain ⟨_, _, _, hname, hconcurrency, htimeout, rfl⟩ := follows_iff.1 h
  obtain ⟨_, _, _, hname', hconcurrency', htimeout', rfl⟩ := follows_iff.1 h'
  rw [hname.unique hname', hconcurrency.unique hconcurrency', htimeout.unique htimeout']

end Follows

/-! ## Reading the settings of a channel -/

namespace Slots

variable {s t : Slots} {k : String}

/-- Reading one field fills the slot of its name. -/
theorem read_eq_ok (h : s.read k d = .ok t) :
    (k = "name" ∧ s.name = none ∧ ∃ v, decodeName d = .ok v ∧ t = { s with name := some v }) ∨
    (k = "max_concurrency" ∧ s.maxConcurrency = none ∧ ∃ v, decodeConcurrency d = .ok v ∧
      t = { s with maxConcurrency := some v }) ∨
    (k = "shutdown_timeout" ∧ s.shutdownTimeout = none ∧ ∃ v, decodeTimeout d = .ok v ∧
      t = { s with shutdownTimeout := some v }) ∨
    (k ≠ "name" ∧ k ≠ "max_concurrency" ∧ k ≠ "shutdown_timeout" ∧ t = s) := by
  unfold read at h
  split at h
  · obtain ⟨hnone, v, hv, rfl⟩ := Json.Slot.map_fill_eq_ok h
    exact .inl ⟨rfl, hnone, v, hv, rfl⟩
  · obtain ⟨hnone, v, hv, rfl⟩ := Json.Slot.map_fill_eq_ok h
    exact .inr (.inl ⟨rfl, hnone, v, hv, rfl⟩)
  · obtain ⟨hnone, v, hv, rfl⟩ := Json.Slot.map_fill_eq_ok h
    exact .inr (.inr (.inl ⟨rfl, hnone, v, hv, rfl⟩))
  · next hname hconcurrency htimeout =>
      obtain ⟨_, _, rfl⟩ := map_eq_ok h
      exact .inr (.inr (.inr ⟨hname, hconcurrency, htimeout, rfl⟩))

/-- Whether a field can be read. -/
theorem isOk_read (s : Slots) (k : String) (d : Json.Doc) : (s.read k d).isOk =
    match k with
    | "name" => s.name.isNone && (decodeName d).isOk
    | "max_concurrency" => s.maxConcurrency.isNone && (decodeConcurrency d).isOk
    | "shutdown_timeout" => s.shutdownTimeout.isNone && (decodeTimeout d).isOk
    | _ => d.ignore.isOk := by
  unfold read
  split <;> simp only [Json.isOk_map, Json.Slot.isOk_fill]

theorem independent_read : Json.Independent read := by
  intro s t k j d hread hne e
  rw [isOk_read, isOk_read]
  rcases read_eq_ok hread with ⟨rfl, -, v, -, rfl⟩ | ⟨rfl, -, v, -, rfl⟩ | ⟨rfl, -, v, -, rfl⟩ |
    ⟨-, -, -, rfl⟩
  · split <;> simp_all
  · split <;> simp_all
  · split <;> simp_all
  · rfl

theorem fills_maxConcurrency :
    Json.Fills read "max_concurrency" Slots.maxConcurrency decodeConcurrency where
  own h := by
    obtain ⟨hnone, v, hv, rfl⟩ := Json.Slot.map_fill_eq_ok h
    exact ⟨hnone, v, hv, rfl⟩
  other hk h := by
    rcases read_eq_ok h with ⟨_, _, _, _, rfl⟩ | ⟨heq, _⟩ | ⟨_, _, _, _, rfl⟩ | ⟨_, _, _, rfl⟩
    · rfl
    · exact absurd heq hk
    · rfl
    · rfl

theorem fills_shutdownTimeout :
    Json.Fills read "shutdown_timeout" Slots.shutdownTimeout decodeTimeout where
  own h := by
    obtain ⟨hnone, v, hv, rfl⟩ := Json.Slot.map_fill_eq_ok h
    exact ⟨hnone, v, hv, rfl⟩
  other hk h := by
    rcases read_eq_ok h with ⟨_, _, _, _, rfl⟩ | ⟨_, _, _, _, rfl⟩ | ⟨heq, _⟩ | ⟨_, _, _, rfl⟩
    · rfl
    · rfl
    · exact absurd heq hk
    · rfl

end Slots

end ChannelConfig

/-! ## Reading a section -/

namespace ChannelSection

variable {s t : Slots} {k : String} {d : Json.Doc} {fields : List (String × Json.Doc)}

/-- Reading one field fills the name, or puts the field aside. -/
theorem Slots.read_eq_ok (h : s.read k d = .ok t) :
    (k = "name" ∧ s.name = none ∧ ∃ v, d.asOption ChannelConfig.decodeName = .ok v ∧
      t = { s with name := some v }) ∨
    (k ≠ "name" ∧ t = { s with others := s.others ++ [(k, d)] }) := by
  unfold read at h
  split at h
  · next hk =>
      obtain ⟨hnone, v, hv, rfl⟩ := Json.Slot.map_fill_eq_ok h
      exact .inl ⟨hk, hnone, v, hv, rfl⟩
  · next hk =>
      obtain ⟨_, _, rfl⟩ := map_eq_ok h
      exact .inr ⟨hk, rfl⟩

theorem Slots.isOk_read (s : Slots) (k : String) (d : Json.Doc) : (s.read k d).isOk =
    if k = "name" then s.name.isNone && (d.asOption ChannelConfig.decodeName).isOk
    else d.buffer.isOk := by
  unfold read
  split <;> simp only [Json.isOk_map, Json.Slot.isOk_fill]

theorem Slots.independent_read : Json.Independent Slots.read := by
  intro s t k j d hread hne e
  rw [isOk_read, isOk_read]
  rcases read_eq_ok hread with ⟨rfl, -, v, -, rfl⟩ | ⟨-, rfl⟩
  · rw [if_neg hne, if_neg hne]
  · rfl

theorem Slots.fills_name : Json.Fills Slots.read "name" Slots.name
    (·.asOption ChannelConfig.decodeName) where
  own h := by
    rcases read_eq_ok h with ⟨_, hnone, v, hv, rfl⟩ | ⟨hne, _⟩
    · exact ⟨hnone, v, hv, rfl⟩
    · exact absurd rfl hne
  other hk h := by
    rcases read_eq_ok h with ⟨heq, _⟩ | ⟨_, rfl⟩
    · exact absurd heq hk
    · rfl

/-- All fields but the name are put aside. -/
theorem others_of_foldFields (h : Json.foldFields Slots.read s fields = .ok t) :
    t.others = s.others ++ Entries.erase "name" fields := by
  induction fields generalizing s with
  | nil =>
      cases h
      exact (List.append_nil _).symm
  | cons f fs ih =>
      obtain ⟨k, d⟩ := f
      rw [Json.foldFields] at h
      split at h
      · cases h
      · next b hb =>
          rw [ih h]
          rcases Slots.read_eq_ok hb with ⟨rfl, _, _, _, rfl⟩ | ⟨hk, rfl⟩
          · simp [Entries.erase]
          · simp [Entries.erase, hk]

/-- The settings of a section that is accepted are those of its object. -/
theorem follows_of_decode {defaultName : String} {c : ChannelConfig}
    (h : decode defaultName d = .ok c) :
    ∃ fields close, d = .object fields close ∧ c.Follows defaultName fields := by
  cases d with
  | object fields close =>
      obtain ⟨s, hs, h⟩ := bind_eq_ok h
      obtain ⟨_, _, h⟩ := bind_eq_ok h
      obtain ⟨settings, hsettings, h⟩ := bind_eq_ok h
      cases h
      rw [others_of_foldFields hs] at hsettings
      have hconcurrency := ChannelConfig.Slots.fills_maxConcurrency.holds rfl hsettings
      have htimeout := ChannelConfig.Slots.fills_shutdownTimeout.holds rfl hsettings
      rw [List.nil_append, Entries.find?_erase, if_neg (by decide)] at hconcurrency htimeout
      exact ⟨fields, close, rfl, ChannelConfig.follows_iff.2 ⟨_, _, _,
        Slots.fills_name.holds rfl hs, hconcurrency, htimeout, rfl⟩⟩
  | _ => cases h

/-- A section can be read if there are settings that follow its object, no name stands twice and
there is nothing faulty about it. -/
theorem decode_of_follows {defaultName : String} {c : ChannelConfig} {close : Json.Close}
    (hnames : (fields.map Prod.fst).Nodup)
    (hplain : ∀ f ∈ fields, f.2.buffer.isOk = true ∧ f.2.ignore.isOk = true)
    (hclose : close.endFields = .ok ()) (h : c.Follows defaultName fields) :
    decode defaultName (.object fields close) = .ok c := by
  obtain ⟨_, _, _, hname, hconcurrency, htimeout, _⟩ := ChannelConfig.follows_iff.1 h
  have hfirst : (Json.foldFields Slots.read {} fields).isOk = true := by
    refine (Json.isOk_foldDocs Slots.independent_read {} hnames).2 fun k d hd => ?_
    rw [Slots.isOk_read]
    split
    · next hk =>
        subst hk
        rw [hd] at hname
        exact hname.isOk
    · exact (hplain _ (Entries.mem_of_find? hd)).1
  obtain ⟨s, hs⟩ := Json.isOk_iff.1 hfirst
  have hothers : s.others = Entries.erase "name" fields := others_of_foldFields hs
  have hsecond : (Json.foldFields ChannelConfig.Slots.read {} s.others).isOk = true := by
    have hnames' : (s.others.map Prod.fst).Nodup := by
      rw [hothers]
      exact (List.filter_sublist.map _).nodup hnames
    refine (Json.isOk_foldDocs ChannelConfig.Slots.independent_read {} hnames').2 fun k d hd => ?_
    rw [hothers, Entries.find?_erase] at hd
    split at hd
    · cases hd
    · next hk =>
        rw [ChannelConfig.Slots.isOk_read]
        split
        · exact absurd rfl hk
        · rw [hd] at hconcurrency
          exact hconcurrency.isOk
        · rw [hd] at htimeout
          exact htimeout.isOk
        · exact (hplain _ (Entries.mem_of_find? hd)).2
  obtain ⟨settings, hsettings⟩ := Json.isOk_iff.1 hsecond
  have hdecode : decode defaultName (.object fields close) =
      .ok { settings.finish {} with name := (s.name.getD none).getD defaultName } := by
    simp only [decode, hs, hclose, hsettings, bind, Except.bind]
  obtain ⟨_, _, heq, hfollows⟩ := follows_of_decode hdecode
  cases heq
  rw [hdecode, hfollows.unique h]

end ChannelSection

/-! ## Reading the settings of a bus -/

/-- The fields of a section, which is an object unless it is absent. -/
inductive IsSection : Option Json.Doc → List (String × Json.Doc) → Prop where
  /-- A section that is absent has no fields. -/
  | absent : IsSection none []
  /-- A section that is there. -/
  | given (fields : List (String × Json.Doc)) (close : Json.Close) :
    IsSection (some (.object fields close)) fields

theorem IsSection.unique {field : Option Json.Doc} {own own' : List (String × Json.Doc)}
    (h : IsSection field own) (h' : IsSection field own') : own = own' := by
  cases h with
  | absent => cases h'; rfl
  | given => cases h'; rfl

namespace BusConfig

variable {s t : Slots} {k : String} {d : Json.Doc} {fields : List (String × Json.Doc)}
  {c c' : BusConfig}

/-- The settings of a bus are those of an object: the settings of each channel are those of its own
section, with a default name of its own. -/
structure Follows (fields : List (String × Json.Doc)) (c : BusConfig) : Prop where
  inbound : ∃ own, IsSection (Entries.find? "inbound" fields) own ∧
    c.inbound.Follows "clientInboundChannel" own
  outbound : ∃ own, IsSection (Entries.find? "outbound" fields) own ∧
    c.outbound.Follows "clientOutboundChannel" own

/-- Reading one field fills the slot of its section. -/
theorem Slots.read_eq_ok (h : s.read k d = .ok t) :
    (k = "inbound" ∧ s.inbound = none ∧ ∃ v, decodeInbound d = .ok v ∧
      t = { s with inbound := some v }) ∨
    (k = "outbound" ∧ s.outbound = none ∧ ∃ v, decodeOutbound d = .ok v ∧
      t = { s with outbound := some v }) ∨
    (k ≠ "inbound" ∧ k ≠ "outbound" ∧ t = s) := by
  unfold read at h
  split at h
  · obtain ⟨hnone, v, hv, rfl⟩ := Json.Slot.map_fill_eq_ok h
    exact .inl ⟨rfl, hnone, v, hv, rfl⟩
  · obtain ⟨hnone, v, hv, rfl⟩ := Json.Slot.map_fill_eq_ok h
    exact .inr (.inl ⟨rfl, hnone, v, hv, rfl⟩)
  · next hinbound houtbound =>
      obtain ⟨_, _, rfl⟩ := map_eq_ok h
      exact .inr (.inr ⟨hinbound, houtbound, rfl⟩)

theorem Slots.isOk_read (s : Slots) (k : String) (d : Json.Doc) : (s.read k d).isOk =
    match k with
    | "inbound" => s.inbound.isNone && (decodeInbound d).isOk
    | "outbound" => s.outbound.isNone && (decodeOutbound d).isOk
    | _ => d.ignore.isOk := by
  unfold read
  split <;> simp only [Json.isOk_map, Json.Slot.isOk_fill]

theorem Slots.independent_read : Json.Independent Slots.read := by
  intro s t k j d hread hne e
  rw [isOk_read, isOk_read]
  rcases read_eq_ok hread with ⟨rfl, -, v, -, rfl⟩ | ⟨rfl, -, v, -, rfl⟩ | ⟨-, -, rfl⟩
  · split <;> simp_all
  · split <;> simp_all
  · rfl

theorem Slots.fills_inbound : Json.Fills Slots.read "inbound" Slots.inbound decodeInbound where
  own h := by
    obtain ⟨hnone, v, hv, rfl⟩ := Json.Slot.map_fill_eq_ok h
    exact ⟨hnone, v, hv, rfl⟩
  other hk h := by
    rcases read_eq_ok h with ⟨heq, _⟩ | ⟨_, _, _, _, rfl⟩ | ⟨_, _, rfl⟩
    · exact absurd heq hk
    · rfl
    · rfl

theorem Slots.fills_outbound : Json.Fills Slots.read "outbound" Slots.outbound decodeOutbound where
  own h := by
    obtain ⟨hnone, v, hv, rfl⟩ := Json.Slot.map_fill_eq_ok h
    exact ⟨hnone, v, hv, rfl⟩
  other hk h := by
    rcases read_eq_ok h with ⟨_, _, _, _, rfl⟩ | ⟨heq, _⟩ | ⟨_, _, rfl⟩
    · rfl
    · exact absurd heq hk
    · rfl

theorem follows_named (defaultName : String) :
    (ChannelConfig.named defaultName).Follows defaultName [] :=
  ⟨.inl ⟨.inl rfl, rfl⟩, .inl ⟨rfl, rfl⟩, .inl ⟨rfl, rfl⟩⟩

/-- What the slot of a section holds, or else the default settings, are the settings of its
fields. -/
theorem follows_of_holds {defaultName : String} {field : Option Json.Doc}
    {slot : Json.Slot ChannelConfig} (h : slot.Holds (ChannelSection.decode defaultName) field) :
    ∃ own, IsSection field own ∧
      (slot.getD (.named defaultName)).Follows defaultName own := by
  rcases h with ⟨rfl, rfl⟩ | ⟨d, c, rfl, hc, rfl⟩
  · exact ⟨[], .absent, follows_named defaultName⟩
  · obtain ⟨own, close, rfl, hfollows⟩ := ChannelSection.follows_of_decode hc
    exact ⟨own, .given own close, hfollows⟩

/-- Settings that are read from an object follow it. -/
theorem follows_of_decode {close : Json.Close} (h : decode (.object fields close) = .ok c) :
    c.Follows fields := by
  obtain ⟨s, hs, h⟩ := bind_eq_ok h
  obtain ⟨_, _, h⟩ := bind_eq_ok h
  cases h
  exact ⟨follows_of_holds (Slots.fills_inbound.holds rfl hs),
    follows_of_holds (Slots.fills_outbound.holds rfl hs)⟩

/-- There is one way to follow an object. -/
theorem Follows.unique (h : c.Follows fields) (h' : c'.Follows fields) : c = c' := by
  obtain ⟨own, hown, hin⟩ := h.inbound
  obtain ⟨own', hown', hin'⟩ := h'.inbound
  obtain ⟨other, hother, hout⟩ := h.outbound
  obtain ⟨other', hother', hout'⟩ := h'.outbound
  rw [← hown.unique hown'] at hin'
  rw [← hother.unique hother'] at hout'
  cases c
  cases c'
  cases hin.unique hin'
  cases hout.unique hout'
  rfl

end BusConfig

/-! ## Writing settings -/

/-- The time limit, if there is one, can be represented. -/
def ChannelConfig.Timely (c : ChannelConfig) : Prop := ∀ t, c.shutdownTimeout = some t → t.Fits

theorem ChannelConfig.Follows.timely {defaultName : String} {fields : List (String × Json.Doc)}
    {c : ChannelConfig} (h : c.Follows defaultName fields) : c.Timely := by
  intro t ht
  rcases h.shutdownTimeout with ⟨_, heq⟩ | ⟨_, heq⟩ | ⟨s, t', _, hread, heq⟩
  · rw [ht] at heq
    cases heq
    exact (by decide : (5 : Nat) ≤ Duration.maxAmount)
  · rw [ht] at heq
    cases heq
  · rw [ht] at heq
    cases heq
    exact Duration.fits_ofText? hread

/-- Fields that say what the settings are. -/
theorem ChannelConfig.follows_of_find? {defaultName : String} {fields : List (String × Json.Doc)}
    {c : ChannelConfig} (h : c.Timely)
    (hname : Entries.find? "name" fields = some (.string c.name))
    (hconcurrency : Entries.find? "max_concurrency" fields =
      some (.integer c.maxConcurrency.toNat))
    (htimeout : Entries.find? "shutdown_timeout" fields =
      some (Json.textOrNull (c.shutdownTimeout.map Duration.text)).toDoc) :
    c.Follows defaultName fields := by
  refine ⟨.inr hname, .inr hconcurrency, ?_⟩
  cases ht : c.shutdownTimeout with
  | none =>
      rw [ht] at htimeout
      exact .inr (.inl ⟨htimeout, rfl⟩)
  | some t =>
      rw [ht] at htimeout
      exact .inr (.inr ⟨t.text, t, htimeout, Duration.ofText?_text (h t ht), rfl⟩)

/-- Settings follow what is written of them, in the order in which it is written. -/
theorem ChannelConfig.follows_fields {c : ChannelConfig} (h : c.Timely) (defaultName : String) :
    c.Follows defaultName (Json.toDocFields c.fields) :=
  follows_of_find? h rfl rfl rfl

/-- So they do in the order of a value. -/
theorem ChannelConfig.follows_ofList {c : ChannelConfig} (h : c.Timely) (defaultName : String) :
    c.Follows defaultName (Json.toDocFields (Entries.ofList c.fields)) := by
  have hnames : (c.fields.map Prod.fst).Nodup := by simp [fields]
  apply follows_of_find? h
  · rw [Json.find?_toDocFields, Entries.find?_ofList hnames]
    rfl
  · rw [Json.find?_toDocFields, Entries.find?_ofList hnames]
    rfl
  · rw [Json.find?_toDocFields, Entries.find?_ofList hnames]
    rfl

theorem ChannelConfig.ordered_toJson (c : ChannelConfig) : (Json.ofFields c.fields).Ordered := by
  refine Json.ordered_ofFields ⟨trivial, trivial, ?_, trivial⟩
  cases c.shutdownTimeout <;> trivial

/-- Their text can be read back. -/
theorem ChannelConfig.legible_fields (c : ChannelConfig) (room : Nat) :
    Json.LegibleFields room c.fields := by
  have hlt := c.maxConcurrency.toNat_lt
  refine ⟨trivial, ⟨?_, ?_⟩, ?_, trivial⟩
  · show (-2 ^ 63 : Int) ≤ c.maxConcurrency.toNat
    omega
  · show (c.maxConcurrency.toNat : Int) < 2 ^ 64
    omega
  · cases c.shutdownTimeout <;> trivial

theorem ChannelConfig.toTextFields_fields (c : ChannelConfig) :
    Json.toTextFields c.fields = Json.toDocFields c.fields := by
  obtain ⟨name, maxConcurrency, shutdownTimeout⟩ := c
  cases shutdownTimeout <;> rfl

/-! ## Reading values -/

/-- There is nothing faulty about the fields of a value. -/
theorem Json.plain_toDocFields {fields : List (String × Json)} :
    ∀ f ∈ Json.toDocFields fields, f.2.buffer.isOk = true ∧ f.2.ignore.isOk = true := by
  induction fields with
  | nil => exact nofun
  | cons f fs ih =>
      intro g hg
      rcases List.mem_cons.1 hg with rfl | hg
      · rw [Json.buffer_toDoc, Json.ignore_toDoc]
        exact ⟨rfl, rfl⟩
      · exact ih g hg

/-- A section that is written as a text is read as the settings that it was written of. -/
theorem ChannelSection.decode_fields {c : ChannelConfig} (h : c.Timely) (defaultName : String) :
    ChannelSection.decode defaultName (.object (Json.toDocFields c.fields) .closed) = .ok c :=
  ChannelSection.decode_of_follows (by simp [Json.toDocFields, ChannelConfig.fields])
    Json.plain_toDocFields rfl (ChannelConfig.follows_fields h defaultName)

/-- A section of a value can be read if there are settings that follow it. -/
theorem ChannelSection.decode_toDoc {defaultName : String} {v : Json} (hv : v.Ordered)
    {own : List (String × Json.Doc)} {c : ChannelConfig} (hown : IsSection (some v.toDoc) own)
    (h : c.Follows defaultName own) : decode defaultName v.toDoc = .ok c := by
  cases v with
  | object fields =>
      cases hown
      refine decode_of_follows ?_ Json.plain_toDocFields rfl h
      rw [Json.map_fst_toDocFields]
      exact Entries.nodup_of_ascending hv.1
  | _ => cases hown

namespace BusConfig

variable {c : BusConfig} {fields : List (String × Json)}

/-- The settings that are read from a value are those that follow it. -/
theorem decode_iff (hordered : (Json.object fields).Ordered) :
    decode (Json.object fields).toDoc = .ok c ↔ c.Follows (Json.toDocFields fields) := by
  constructor
  · exact follows_of_decode
  · intro h
    obtain ⟨hascending, hvalues⟩ := hordered
    have hvalue : ∀ {k v}, Entries.find? k fields = some v → v.Ordered := fun hv =>
      (Json.orderedFields_iff fields).1 hvalues _ (Entries.mem_of_find? hv)
    obtain ⟨own, hown, hin⟩ := h.inbound
    obtain ⟨other, hother, hout⟩ := h.outbound
    rw [Json.find?_toDocFields] at hown hother
    have hread : (Json.foldFields Slots.read {} (Json.toDocFields fields)).isOk = true := by
      refine (Json.isOk_foldFields Slots.independent_read {} hascending).2 fun k v hv => ?_
      rw [Slots.isOk_read]
      split
      · rw [hv] at hown
        exact Json.isOk_iff.2 ⟨_, ChannelSection.decode_toDoc (hvalue hv) hown hin⟩
      · rw [hv] at hother
        exact Json.isOk_iff.2 ⟨_, ChannelSection.decode_toDoc (hvalue hv) hother hout⟩
      · rw [Json.ignore_toDoc]
        rfl
    obtain ⟨s, hs⟩ := Json.isOk_iff.1 hread
    have hdecode : decode (Json.object fields).toDoc = .ok s.finish := by
      rw [Json.toDoc, decode, hs]
      rfl
    rw [hdecode, (follows_of_decode hdecode).unique h]

/-! ## Writing and reading -/

/-- The time limits of both channels can be represented. -/
def Representable (c : BusConfig) : Prop := c.inbound.Timely ∧ c.outbound.Timely

/-- A section that is an item of an array is its object, too. -/
theorem timely_of_nextItem {defaultName : String} {close : Json.Close} {items rest : List Json.Doc}
    {slot : Json.Slot ChannelConfig}
    (h : Json.nextItem (ChannelSection.decode defaultName) close items = .ok (slot, rest)) :
    (slot.getD (.named defaultName)).Timely := by
  have hholds : slot.Holds (ChannelSection.decode defaultName) items.head? := by
    cases items with
    | nil =>
        simp only [Json.nextItem] at h
        split at h
        · cases h
        · cases h
          exact .inl ⟨rfl, rfl⟩
    | cons d ds =>
        obtain ⟨v, hv, heq⟩ := map_eq_ok h
        cases heq
        exact .inr ⟨d, v, rfl, hv, rfl⟩
  obtain ⟨_, _, hfollows⟩ := follows_of_holds hholds
  exact hfollows.timely

/-- Settings that were read can be represented. -/
theorem representable_of_decode {d : Json.Doc} (h : decode d = .ok c) : c.Representable := by
  cases d with
  | object fields close =>
      have hfollows := follows_of_decode h
      obtain ⟨_, _, hin⟩ := hfollows.inbound
      obtain ⟨_, _, hout⟩ := hfollows.outbound
      exact ⟨hin.timely, hout.timely⟩
  | array items close =>
      obtain ⟨⟨inbound, rest⟩, hin, h⟩ := bind_eq_ok h
      obtain ⟨⟨outbound, rest'⟩, hout, h⟩ := bind_eq_ok h
      obtain ⟨_, _, h⟩ := bind_eq_ok h
      cases h
      exact ⟨timely_of_nextItem hin, timely_of_nextItem hout⟩
  | _ => cases h

/-- What is written of settings is followed by them, as a value. -/
theorem follows_toJson (h : c.Representable) :
    c.Follows (Json.toDocFields (Entries.ofList (c.fieldsWith Json.ofFields))) := by
  have hnames : ((c.fieldsWith Json.ofFields).map Prod.fst).Nodup := by simp [fieldsWith]
  constructor
  · rw [Json.find?_toDocFields, Entries.find?_ofList hnames]
    exact ⟨_, .given _ _, ChannelConfig.follows_ofList h.1 _⟩
  · rw [Json.find?_toDocFields, Entries.find?_ofList hnames]
    exact ⟨_, .given _ _, ChannelConfig.follows_ofList h.2 _⟩

theorem decode_toJson (h : c.Representable) : decode c.toJson.toDoc = .ok c := by
  have hordered : c.toJson.Ordered :=
    Json.ordered_ofFields ⟨ChannelConfig.ordered_toJson c.inbound,
      ChannelConfig.ordered_toJson c.outbound, trivial⟩
  exact (decode_iff hordered).2 (follows_toJson h)

/-- In a text the fields do not stand in order, but as they are declared. -/
theorem scan_wire (c : BusConfig) :
    (Json.scan c.wire Json.maxDepth).doc = .object
      [("inbound", .object (Json.toDocFields c.inbound.fields) .closed),
        ("outbound", .object (Json.toDocFields c.outbound.fields) .closed)] .closed ∧
    (Json.scan c.wire Json.maxDepth).trailing = none := by
  have hlegible : (Json.object (c.fieldsWith .object)).Legible Json.maxDepth :=
    ⟨nofun, ⟨nofun, c.inbound.legible_fields _⟩, ⟨nofun, c.outbound.legible_fields _⟩, trivial⟩
  rw [← ChannelConfig.toTextFields_fields, ← ChannelConfig.toTextFields_fields]
  exact Json.scan_render hlegible

theorem decode_wire (h : c.Representable) :
    decode (Json.scan c.wire Json.maxDepth).doc = .ok c := by
  have hin : decodeInbound (.object (Json.toDocFields c.inbound.fields) .closed) = .ok c.inbound :=
    ChannelSection.decode_fields h.1 _
  have hout : decodeOutbound (.object (Json.toDocFields c.outbound.fields) .closed) =
      .ok c.outbound := ChannelSection.decode_fields h.2 _
  have hread : Json.foldFields Slots.read {}
      [("inbound", .object (Json.toDocFields c.inbound.fields) .closed),
        ("outbound", .object (Json.toDocFields c.outbound.fields) .closed)] =
      .ok ⟨some c.inbound, some c.outbound⟩ := by
    simp [Json.foldFields, Slots.read, Json.Slot.fill, hin, hout, Except.map]
  rw [c.scan_wire.1, decode, hread]
  rfl

/-- How settings are written and read. -/
structure Coding (c : BusConfig) : Prop where
  /-- Settings that are written as a value are read as they were, if they can be represented. -/
  value_iff : decode c.toJson.toDoc = .ok c ↔ c.Representable
  /-- So are settings that are written as a text, and nothing of the text is left. -/
  text_iff : decode (Json.scan c.wire Json.maxDepth).doc = .ok c ∧
    (Json.scan c.wire Json.maxDepth).trailing = none ↔ c.Representable
  /-- All settings that can be read can be represented. -/
  representable : ∀ d, decode d = .ok c → c.Representable
  /-- Settings that are read from an object are those that follow it: each is what its own field of
  its own section says, or its default. -/
  follows : ∀ fields close, decode (.object fields close) = .ok c → c.Follows fields
  /-- That there are settings that follow it is all that it takes for a value to be accepted. -/
  accepted_iff : ∀ fields, (Json.object fields).Ordered →
    (decode (Json.object fields).toDoc = .ok c ↔ c.Follows (Json.toDocFields fields))

/-- Settings are written and read as they should be, whatever they are. -/
theorem coding (c : BusConfig) : c.Coding where
  value_iff := ⟨representable_of_decode, decode_toJson⟩
  text_iff := ⟨fun h => representable_of_decode h.1, fun h => ⟨decode_wire h, c.scan_wire.2⟩⟩
  representable _ := representable_of_decode
  follows _ _ := follows_of_decode
  accepted_iff _ := decode_iff

/-- A section that names none of its settings has the defaults of its own place, and a time limit
that is null is none. -/
example : decode (Json.ofFields
    [("inbound", Json.ofFields [("max_concurrency", .ofNat 32), ("extra", .null)]),
      ("outbound", Json.ofFields [("name", .null), ("shutdown_timeout", .null)])]).toDoc =
    .ok ⟨⟨"clientInboundChannel", 32, some (.ofSeconds 5)⟩,
      ⟨"clientOutboundChannel", 16, none⟩⟩ := by
  rfl

end BusConfig

end Switchboard
