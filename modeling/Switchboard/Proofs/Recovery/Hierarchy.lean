/-
# Switchboard.Proofs.Recovery.Hierarchy -- the order of error kinds, and what ties between them mean

Kinds are told apart by their names, while the way up from a kind leads through the kinds
themselves. The two agree for kinds that are closed under parents and of which those of one name
have one ancestry: among these a name stands for one kind (`CoherentOn.eq_of_name`). No kind is met
twice on the way up, since there is less above with every step (`nodup_ancestors`), and so no name
is met twice (`nodup_names`).

What carries everything else is `depthTo_eq_some_iff`: the number of steps from one kind up to
another is the place of the other among the ancestors of the first. From that place on stand the
ancestors of the other (`drop_ancestors`), so the order, comparability and the addition of steps
are facts about the ends of one list.

`Choice.Decided` is the rule for candidates without a word about ties between kinds: the nearest
declared kind decides, and of the candidates declared for this one kind the first is taken.
`hierarchy_of_coherentOn` puts all of this together.
-/

import Mathlib.Data.List.Nodup
import Switchboard.Proofs.Recovery.Memory

namespace Switchboard

universe u

namespace ErrorKind

/-! ## The way up from a kind -/

/-- A kind stands at the top or directly below another. -/
theorem inductionFromTop {motive : ErrorKind → Prop} (top : ∀ n, motive ⟨n, []⟩)
    (below : ∀ n p, motive p → motive (child n p)) (k : ErrorKind) : motive k := by
  obtain ⟨n, above⟩ := k
  induction above generalizing n with
  | nil => exact top n
  | cons m ms ih => exact below n ⟨m, ms⟩ (ih m)

theorem ancestors_child (n : String) (p : ErrorKind) :
    (child n p).ancestors = child n p :: p.ancestors := rfl

theorem self_mem_ancestors (k : ErrorKind) : k ∈ k.ancestors := List.mem_cons_self

theorem lineage_injective : Function.Injective lineage := by
  rintro ⟨n, above⟩ ⟨m, others⟩ h
  cases h
  rfl

/-- From the place of an ancestor on stand the ancestors of this one. -/
theorem drop_ancestors {k a : ErrorKind} {n : Nat} (h : k.ancestors[n]? = some a) :
    k.ancestors.drop n = a.ancestors := by
  induction k using inductionFromTop generalizing n with
  | top m =>
      cases n with
      | zero => cases h; rfl
      | succ n => cases h
  | below m p ih =>
      cases n with
      | zero => cases h; rfl
      | succ n => exact ih h

theorem ancestors_suffix {k a : ErrorKind} (h : a ∈ k.ancestors) :
    a.ancestors <:+ k.ancestors := by
  obtain ⟨n, hn⟩ := List.mem_iff_getElem?.1 h
  rw [← drop_ancestors hn]
  exact List.drop_suffix n k.ancestors

/-- Whatever the names, no kind is met twice on the way up. -/
theorem nodup_ancestors (k : ErrorKind) : k.ancestors.Nodup := by
  induction k using inductionFromTop with
  | top n => exact List.nodup_singleton _
  | below n p ih =>
      rw [ancestors_child, List.nodup_cons]
      refine ⟨?_, ih⟩
      -- All that is above the lower kind would be above the higher one as well.
      intro hmem
      have hlength := (ancestors_suffix hmem).length_le
      rw [ancestors_child, List.length_cons] at hlength
      omega

/-! ## Steps up -/

/-- Steps are counted up to the first kind that has the name. -/
theorem depthTo_eq_findIdx? (k l : ErrorKind) :
    k.depthTo l = k.ancestors.findIdx? fun a => a.name == l.name := by
  unfold depthTo List.idxOf?
  rw [← ancestors_map_name, List.findIdx?_map]
  rfl

theorem exists_of_depthTo {k l : ErrorKind} {n : Nat} (h : k.depthTo l = some n) :
    ∃ a, k.ancestors[n]? = some a ∧ a.name = l.name := by
  rw [depthTo_eq_findIdx?] at h
  obtain ⟨hn, hname, _⟩ := List.findIdx?_eq_some_iff_getElem.1 h
  exact ⟨_, List.getElem?_eq_getElem hn, beq_iff_eq.1 hname⟩

/-- Kinds that are equally many steps above one kind have one name. -/
theorem name_eq_of_depthTo {k d e : ErrorKind} {n : Nat} (hd : k.depthTo d = some n)
    (he : k.depthTo e = some n) : d.name = e.name := by
  obtain ⟨a, ha, hda⟩ := exists_of_depthTo hd
  obtain ⟨b, hb, heb⟩ := exists_of_depthTo he
  cases ha.symm.trans hb
  exact hda.symm.trans heb

/-- Of the kind that steps are counted up to nothing but the name matters. -/
theorem depthTo_congr_right (k : ErrorKind) {d e : ErrorKind} (h : d.name = e.name) :
    k.depthTo d = k.depthTo e := by
  unfold depthTo
  rw [h]

/-! ## Kinds that are closed under parents -/

/-- Whenever `K` holds of a kind, it holds of the kind directly above. -/
def ParentClosed (K : ErrorKind → Prop) : Prop := ∀ k, K k → ∀ p ∈ k.parent?, K p

/-- A name stands for one kind. -/
theorem CoherentOn.eq_of_name {K : ErrorKind → Prop} {k l : ErrorKind} (hcoherent : CoherentOn K)
    (hk : K k) (hl : K l) (hname : k.name = l.name) : k = l :=
  lineage_injective (hcoherent k l hk hl hname)

theorem ParentClosed.ancestor {K : ErrorKind → Prop} {k a : ErrorKind} (hclosed : ParentClosed K)
    (hk : K k) (ha : a ∈ k.ancestors) : K a := by
  induction k using inductionFromTop with
  | top n =>
      rw [List.mem_singleton.1 ha]
      exact hk
  | below n p ih =>
      rw [ancestors_child] at ha
      rcases List.mem_cons.1 ha with rfl | ha
      · exact hk
      · exact ih (hclosed _ hk p rfl) ha

section Order

variable {K : ErrorKind → Prop} {a b c k l : ErrorKind} {m n : Nat}
  (hclosed : ParentClosed K) (hcoherent : CoherentOn K)

include hclosed hcoherent

theorem nodup_names (hk : K k) : (k.ancestors.map name).Nodup := by
  refine List.Nodup.map_on ?_ (nodup_ancestors k)
  intro a ha b hb hname
  exact hcoherent.eq_of_name (hclosed.ancestor hk ha) (hclosed.ancestor hk hb) hname

/-- The number of steps up to a kind is the place of this very kind among the ancestors. -/
theorem depthTo_eq_some_iff (hk : K k) (hl : K l) :
    k.depthTo l = some n ↔ k.ancestors[n]? = some l := by
  constructor
  · intro h
    obtain ⟨a, ha, hname⟩ := exists_of_depthTo h
    have haK : K a := hclosed.ancestor hk (List.mem_of_getElem? ha)
    rw [ha, hcoherent.eq_of_name haK hl hname]
  · intro h
    obtain ⟨hn, hget⟩ := List.getElem?_eq_some_iff.1 h
    rw [depthTo_eq_findIdx?, List.findIdx?_eq_some_iff_getElem]
    refine ⟨hn, by rw [hget]; exact beq_self_eq_true l.name, ?_⟩
    -- A nearer kind of this name would be the same one, met twice.
    intro j hj hname
    have hjK : K k.ancestors[j] := hclosed.ancestor hk (List.getElem_mem _)
    have hsame : k.ancestors[j] = k.ancestors[n] := by
      rw [hget]
      exact hcoherent.eq_of_name hjK hl (beq_iff_eq.1 hname)
    have := (nodup_ancestors k).getElem_inj_iff.1 hsame
    omega

theorem isA_iff_mem_ancestors (hk : K k) (hl : K l) : k.isA l = true ↔ l ∈ k.ancestors := by
  unfold isA
  rw [Option.isSome_iff_exists, List.mem_iff_getElem?]
  simp only [depthTo_eq_some_iff hclosed hcoherent hk hl]

/-- One kind is another or lies below it just when what is above the other ends what is above it. -/
theorem isA_iff_suffix (hk : K k) (hl : K l) : k.isA l = true ↔ l.ancestors <:+ k.ancestors := by
  rw [isA_iff_mem_ancestors hclosed hcoherent hk hl]
  exact ⟨ancestors_suffix, fun h => h.subset (self_mem_ancestors l)⟩

theorem isA_antisymm (hk : K k) (hl : K l) (hkl : k.isA l = true) (hlk : l.isA k = true) :
    k = l := by
  have hup := (isA_iff_suffix hclosed hcoherent hk hl).1 hkl
  have hdown := (isA_iff_suffix hclosed hcoherent hl hk).1 hlk
  have hsame : l.ancestors = k.ancestors := hup.eq_of_length_le hdown.length_le
  exact (List.cons.inj hsame).1.symm

theorem isA_trans (ha : K a) (hb : K b) (hc : K c) (hab : a.isA b = true)
    (hbc : b.isA c = true) : a.isA c = true := by
  rw [isA_iff_suffix hclosed hcoherent ha hb] at hab
  rw [isA_iff_suffix hclosed hcoherent hb hc] at hbc
  exact (isA_iff_suffix hclosed hcoherent ha hc).2 (hbc.trans hab)

theorem isA_or_isA (hk : K k) (ha : a ∈ k.ancestors) (hb : b ∈ k.ancestors) :
    a.isA b = true ∨ b.isA a = true := by
  have haK := hclosed.ancestor hk ha
  have hbK := hclosed.ancestor hk hb
  rw [isA_iff_suffix hclosed hcoherent haK hbK, isA_iff_suffix hclosed hcoherent hbK haK]
  exact List.suffix_or_suffix_of_suffix (ancestors_suffix hb) (ancestors_suffix ha)

theorem depthTo_add (ha : K a) (hb : K b) (hc : K c) (hab : a.depthTo b = some m)
    (hbc : b.depthTo c = some n) : a.depthTo c = some (m + n) := by
  rw [depthTo_eq_some_iff hclosed hcoherent ha hb] at hab
  rw [depthTo_eq_some_iff hclosed hcoherent hb hc] at hbc
  rw [depthTo_eq_some_iff hclosed hcoherent ha hc]
  calc a.ancestors[m + n]? = (a.ancestors.drop m)[n]? := List.getElem?_drop.symm
    _ = b.ancestors[n]? := by rw [drop_ancestors hab]
    _ = some c := hbc

end Order

/-- Two kinds of one name and different ancestries are enough to lose the order. -/
example : (child "Late" (child "Slow" ⟨"Late", []⟩)).isA (child "Slow" ⟨"Late", []⟩) = true ∧
    (child "Slow" ⟨"Late", []⟩).isA (child "Late" (child "Slow" ⟨"Late", []⟩)) = true := by
  decide

end ErrorKind

/-! ## The nearest declared kind -/

namespace Choice

variable {α : Type u} {ps : List (ErrorKind × α)} {k d : ErrorKind} {a : α}

/-- Of things declared for kinds, `a` is the first one that is declared for a kind of this name. -/
def First (ps : List (ErrorKind × α)) (d : ErrorKind) (a : α) : Prop :=
  ∃ before e after, ps = before ++ (e, a) :: after ∧ e.name = d.name ∧
    ∀ p ∈ before, p.1.name ≠ d.name

/-- Of things declared for kinds, `a` is the first one for some kind that `k` is or lies below, and
whatever is declared for a kind of another name is farther from `k` than that kind. -/
def Decided (ps : List (ErrorKind × α)) (k : ErrorKind) (a : α) : Prop :=
  ∃ d n, k.depthTo d = some n ∧ First ps d a ∧
    ∀ p ∈ ps, p.1.name ≠ d.name → ∀ i, k.depthTo p.1 = some i → n < i

theorem Nearest.decided (h : Nearest ps k a) : Decided ps k a := by
  obtain ⟨before, d, after, n, rfl, hn, hbefore, hafter⟩ := h
  refine ⟨d, n, hn, ⟨before, d, after, rfl, rfl, ?_⟩, ?_⟩
  · -- What is declared before is farther away, so it is not declared for the same kind.
    intro p hp hname
    have hpn : k.depthTo p.1 = some n := (ErrorKind.depthTo_congr_right k hname).trans hn
    exact Nat.lt_irrefl n (hbefore p hp n hpn)
  · intro p hp hname i hi
    have hne : n ≠ i := by
      rintro rfl
      exact hname (ErrorKind.name_eq_of_depthTo hi hn)
    rcases List.mem_append.1 hp with hp | hp
    · exact hbefore p hp i hi
    · rcases List.mem_cons.1 hp with rfl | hp
      · exact absurd rfl hname
      · exact Nat.lt_of_le_of_ne (hafter p hp i hi) hne

theorem Decided.nearest (h : Decided ps k a) : Nearest ps k a := by
  obtain ⟨d, n, hn, ⟨before, e, after, rfl, hname, hbefore⟩, hfarther⟩ := h
  have hen : k.depthTo e = some n := (ErrorKind.depthTo_congr_right k hname).trans hn
  refine ⟨before, e, after, n, rfl, hen, ?_, ?_⟩
  · intro p hp i hi
    exact hfarther p (List.mem_append_left _ hp) (hbefore p hp) i hi
  · intro p hp i hi
    by_cases hsame : p.1.name = d.name
    · rw [ErrorKind.depthTo_congr_right k hsame, hn] at hi
      cases hi
      exact Nat.le_refl n
    · have hmem : p ∈ before ++ (e, a) :: after :=
        List.mem_append_right _ (List.mem_cons_of_mem _ hp)
      exact Nat.le_of_lt (hfarther p hmem hsame i hi)

/-- The order of declarations decides between those for one kind, and between no others. -/
theorem nearest_iff_decided : Nearest ps k a ↔ Decided ps k a := ⟨Nearest.decided, Decided.nearest⟩

end Choice

namespace ErrorKind

/-! ## What a hierarchy is -/

/-- Kinds of which `K` holds are ordered by their names, and things that are declared for them are
equally near to a kind only if they are declared for the same one. -/
structure Hierarchy (K : ErrorKind → Prop) : Prop where
  /-- On the way up from a kind no name comes twice. -/
  nodup : ∀ k, K k → (k.ancestors.map name).Nodup
  /-- Whether one kind is another or lies below it is a matter of their names. -/
  congr : ∀ k k' l l', K k → K k' → k.name = k'.name → l.name = l'.name → k.isA l = k'.isA l'
  /-- Every kind is of its own kind. -/
  refl : ∀ k, K k → k.isA k = true
  /-- Two kinds of which each is the other or lies below it have one name. -/
  antisymm : ∀ k l, K k → K l → k.isA l = true → l.isA k = true → k.name = l.name
  /-- What lies below a kind lies below all that is above this one. -/
  trans : ∀ a b c, K a → K b → K c → a.isA b = true → b.isA c = true → a.isA c = true
  /-- Of two ancestors of one kind, one is the other or lies below it. -/
  comparable : ∀ k a b, K k → a ∈ k.ancestors → b ∈ k.ancestors → a.isA b = true ∨ b.isA a = true
  /-- Steps from kind to kind add up. -/
  additive : ∀ a b c, K a → K b → K c → ∀ m n, a.depthTo b = some m → b.depthTo c = some n →
    a.depthTo c = some (m + n)
  /-- Declared kinds that are equally many steps above a kind have one name and are the same. -/
  tied : ∀ ds : List Declaration, (∀ p ∈ ds, K p.1) → ∀ k, K k → ∀ p ∈ ds, ∀ q ∈ ds, ∀ n,
    k.depthTo p.1 = some n → k.depthTo q.1 = some n → p.1.name = q.1.name ∧ p.1 = q.1
  /-- Whatever a resolver was asked for before, the nearest declared kind decides which candidate it
  takes for a kind, and what is declared for any other is farther away. -/
  decided : ∀ {α : Type} (cs : List (List ErrorKind × α)) (earlier : List Failure),
    (∀ e ∈ earlier, ∀ l ∈ e.kinds, K l) → ∀ k, K k → ∀ n,
    ((((Resolver.ofCandidates cs).after earlier).resolveKind k).1 = some n ↔
      Choice.Decided (Choice.declarations (cs.map Prod.fst)) k n)

/-- Kinds, however many, that are closed under parents and of which those of one name have one
ancestry form a hierarchy. -/
theorem hierarchy_of_coherentOn {K : ErrorKind → Prop} (hclosed : ParentClosed K)
    (hcoherent : CoherentOn K) : Hierarchy K where
  nodup k hk := nodup_names hclosed hcoherent hk
  congr := by
    intro k k' l l' hk hk' hname hname'
    rw [hcoherent.eq_of_name hk hk' hname]
    unfold isA
    rw [depthTo_congr_right k' hname']
  refl k hk := (isA_iff_mem_ancestors hclosed hcoherent hk hk).2 (self_mem_ancestors k)
  antisymm := by
    intro k l hk hl hkl hlk
    rw [isA_antisymm hclosed hcoherent hk hl hkl hlk]
  trans a b c ha hb hc := isA_trans hclosed hcoherent ha hb hc
  comparable k a b hk := isA_or_isA hclosed hcoherent hk
  additive a b c ha hb hc m n := depthTo_add hclosed hcoherent ha hb hc
  tied := by
    intro ds hds k _ p hp q hq n hpn hqn
    have hname := name_eq_of_depthTo hpn hqn
    exact ⟨hname, hcoherent.eq_of_name (hds p hp) (hds q hq) hname⟩
  decided := by
    intro α cs earlier hearlier k hk n
    have hfresh := Resolver.faithful_ofCandidates K cs
    obtain ⟨hfaithful, hsame⟩ := Resolver.after_spec hcoherent hfresh hearlier
    rw [Resolver.resolveKind_fst hfaithful hk, Resolver.declarations_congr hsame,
      Choice.ofKind?_eq_some_iff]
    exact Choice.nearest_iff_decided

/-- More was asked for than there is. -/
def overdrawn : ErrorKind := child "Overdrawn" invalidState

/-- The kinds of a bank. -/
def bank : List ErrorKind := overdrawn :: builtin

/-- Who deals with failures in the bank. -/
def desks : List (List ErrorKind × String) :=
  [([.runtime], "manager"), ([.panic, .invalidState], "clerk"), ([.invalidState], "porter")]

/-- From `overdrawn` it is two steps to `runtime` and one more to the top. Two desks are declared
for the kind directly above it, and the first of them is asked. -/
theorem hierarchy_of_coherentOn_bank :
    ParentClosed (· ∈ bank) ∧ CoherentOn (· ∈ bank) ∧ Hierarchy (· ∈ bank) ∧
    overdrawn.depthTo .error = some 3 ∧
    (((Resolver.ofCandidates desks).after [.new overdrawn "refused"]).resolveKind overdrawn).1 =
      some 1 := by
  have hclosed : ParentClosed (· ∈ bank) := by
    unfold ParentClosed
    decide
  have hcoherent : CoherentOn (· ∈ bank) := coherentOn_mem (by decide)
  have hierarchy := hierarchy_of_coherentOn hclosed hcoherent
  refine ⟨hclosed, hcoherent, hierarchy, ?_, ?_⟩
  · exact hierarchy.additive overdrawn .runtime .error (by decide) (by decide) (by decide) 2 1
      (by decide) (by decide)
  · refine (hierarchy.decided desks _ (by decide) overdrawn (by decide) 1).2 ?_
    refine ⟨.invalidState, 1, rfl, ?_, by decide⟩
    exact ⟨[(.runtime, 0), (.panic, 1)], .invalidState, [(.invalidState, 2)], rfl, rfl, by decide⟩

end ErrorKind

end Switchboard
