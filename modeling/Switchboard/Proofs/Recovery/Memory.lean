/-
# Switchboard.Proofs.Recovery.Memory -- a resolver that remembers chooses like one that does not

What a resolver finds out about a kind it keeps under the name of the kind, and that there is no
candidate is kept as well. The invariant is `Resolver.Faithful`: whatever is remembered under a
name is what the rule says about every kind of this name. It holds at first, every call keeps it,
and the only thing that it needs is that kinds of one name have one ancestry.

The rule is stated apart from the functions that follow it. `Choice.Nearest` says in terms of the
list of declarations which candidate a kind has, and `Choice.Selected` which one a failure has;
`resolve_after_iff` ties a resolver with any past to them. `ResolverCache.Faithful` lifts the
invariant to the resolvers of all owners.
-/

import Mathlib.Data.List.Basic
import Switchboard.Recovery.Cache

namespace Switchboard

universe u v

/-! ## Kinds of one name -/

namespace ErrorKind

/-- Kinds of which `K` holds and that have one name have one ancestry. -/
def CoherentOn (K : ErrorKind → Prop) : Prop :=
  ∀ k l, K k → K l → k.name = l.name → k.lineage = l.lineage

theorem coherentOn_mem {ks : List ErrorKind} (h : Coherent ks) : CoherentOn (· ∈ ks) :=
  fun k l hk hl hname => h k hk l hl hname

theorem depthTo_eq_none_iff {k d : ErrorKind} : k.depthTo d = none ↔ d.name ∉ k.lineage := by
  unfold depthTo
  exact List.idxOf?_eq_none_iff

/-- Steps are counted along the ancestry, so nothing else of a kind matters. -/
theorem depthTo_congr {k l : ErrorKind} (h : k.lineage = l.lineage) (d : ErrorKind) :
    k.depthTo d = l.depthTo d := by
  unfold depthTo
  rw [h]

end ErrorKind

/-- The kinds of an error and of its causes. -/
def Failure.kinds (f : Failure) : List ErrorKind := f.chain.map Link.kind

namespace Choice

variable {α : Type u} {β : Type v}

/-! ## The rule in terms of the declarations -/

/-- Of things declared for kinds, `a` is the one for the kind `k`: it is declared for an ancestor
of `k`, nothing is declared for a nearer one, and nothing before it for one that is as near. -/
def Nearest (ps : List (ErrorKind × α)) (k : ErrorKind) (a : α) : Prop :=
  ∃ before d after n, ps = before ++ (d, a) :: after ∧ k.depthTo d = some n ∧
    (∀ p ∈ before, ∀ i, k.depthTo p.1 = some i → n < i) ∧
    ∀ p ∈ after, ∀ i, k.depthTo p.1 = some i → n ≤ i

/-- Nothing is declared for a kind or an ancestor of it. -/
def Undeclared (ps : List (ErrorKind × α)) (k : ErrorKind) : Prop :=
  ∀ p ∈ ps, p.1.name ∉ k.lineage

/-- Of things declared for kinds, `a` is the one for a failure: the one for the first error in the
chain of causes for which anything is declared. -/
def Selected (ps : List (ErrorKind × α)) (f : Failure) (a : α) : Prop :=
  ∃ before l after, f.chain = before ++ l :: after ∧ (∀ b ∈ before, Undeclared ps b.kind) ∧
    Nearest ps l.kind a

theorem undeclared_iff_kinds {ps : List (ErrorKind × α)} {k : ErrorKind} :
    Undeclared ps k ↔ ∀ d ∈ ps.map Prod.fst, d.name ∉ k.lineage := by
  simp [Undeclared]

/-- Which declaration is the nearest has nothing to do with what is declared. -/
theorem nearest_map (f : α → β) {ps : List (ErrorKind × α)} {k : ErrorKind} {b : β} :
    Nearest (ps.map fun p => (p.1, f p.2)) k b ↔ ∃ a, Nearest ps k a ∧ f a = b := by
  constructor
  · rintro ⟨before, d, after, n, heq, hn, hbefore, hafter⟩
    obtain ⟨before', rest, rfl, rfl, hrest⟩ := List.map_eq_append_iff.1 heq
    obtain ⟨p, after', rfl, hp, rfl⟩ := List.map_eq_cons_iff.1 hrest
    cases hp
    refine ⟨p.2, ⟨before', p.1, after', n, rfl, hn, ?_, ?_⟩, rfl⟩
    · intro q hq
      exact hbefore _ (List.mem_map_of_mem hq)
    · intro q hq
      exact hafter _ (List.mem_map_of_mem hq)
  · rintro ⟨a, ⟨before, d, after, n, rfl, hn, hbefore, hafter⟩, rfl⟩
    refine ⟨before.map fun p => (p.1, f p.2), d, after.map fun p => (p.1, f p.2), n, by simp, hn,
      ?_, ?_⟩
    · intro q hq
      obtain ⟨p, hp, rfl⟩ := List.mem_map.1 hq
      exact hbefore p hp
    · intro q hq
      obtain ⟨p, hp, rfl⟩ := List.mem_map.1 hq
      exact hafter p hp

/-! ## The nearest of several pairs -/

theorem nearest?_eq_none_iff {ps : List (Nat × Nat)} : nearest? ps = none ↔ ps = [] := by
  cases ps with
  | nil => simp [nearest?]
  | cons p ps =>
      unfold nearest?
      split
      · simp
      · split <;> simp

/-- The first of the least distances is taken. -/
theorem nearest?_eq_some_iff {ps : List (Nat × Nat)} {p : Nat × Nat} :
    nearest? ps = some p ↔ ∃ before after, ps = before ++ p :: after ∧
      (∀ q ∈ before, p.1 < q.1) ∧ ∀ q ∈ after, p.1 ≤ q.1 := by
  induction ps generalizing p with
  | nil => simp [nearest?]
  | cons r ps ih =>
      constructor
      · intro h
        unfold nearest? at h
        split at h
        · next hnone =>
            cases h
            cases nearest?_eq_none_iff.1 hnone
            exact ⟨[], [], rfl, nofun, nofun⟩
        · next q hq =>
            obtain ⟨before, after, rfl, hbefore, hafter⟩ := ih.1 hq
            split at h
            · next hlt =>
                -- The rest has something nearer, and the head is farther than that.
                cases h
                refine ⟨r :: before, after, rfl, ?_, hafter⟩
                intro s hs
                rcases List.mem_cons.1 hs with rfl | hs
                · exact hlt
                · exact hbefore s hs
            · next hle =>
                -- Everything in the rest is at least as far as its own nearest, and so as the head.
                cases h
                refine ⟨[], before ++ q :: after, rfl, nofun, ?_⟩
                intro s hs
                rcases List.mem_append.1 hs with hs | hs
                · have := hbefore s hs
                  omega
                · rcases List.mem_cons.1 hs with rfl | hs
                  · omega
                  · have := hafter s hs
                    omega
      · rintro ⟨before, after, heq, hbefore, hafter⟩
        unfold nearest?
        cases before with
        | nil =>
            cases heq
            split
            · rfl
            · next q hq =>
                obtain ⟨before', after', rfl, _, _⟩ := ih.1 hq
                rw [if_neg (Nat.not_lt.2 (hafter q (by simp)))]
        | cons b before =>
            obtain ⟨rfl, htail⟩ := List.cons.inj heq
            have hrest : nearest? ps = some p :=
              ih.2 ⟨before, after, htail, fun q hq => hbefore q (by simp [hq]), hafter⟩
            rw [hrest]
            exact if_pos (hbefore r (by simp))

/-! ## The functions follow the rule -/

/-- A number is chosen for a kind just when its declaration is the nearest. -/
theorem ofKind?_eq_some_iff {ds : List Declaration} {k : ErrorKind} {n : Nat} :
    ofKind? ds k = some n ↔ Nearest ds k n := by
  have hfits : ∀ d : Declaration, ∀ i, (k.depthTo d.1).map (·, d.2) = some (i, d.2) ↔
      k.depthTo d.1 = some i := by simp
  unfold ofKind?
  rw [Option.map_eq_some_iff]
  constructor
  · rintro ⟨⟨i, _⟩, hnear, rfl⟩
    obtain ⟨before, after, hsplit, hbefore, hafter⟩ := nearest?_eq_some_iff.1 hnear
    -- The declarations split where those that fit do.
    obtain ⟨ds₁, rest, rfl, rfl, hrest⟩ := List.filterMap_eq_append_iff.1 hsplit
    obtain ⟨skipped, d, ds₂, rfl, hskipped, hd, rfl⟩ := List.filterMap_eq_cons_iff.1 hrest
    obtain ⟨j, hj, heq⟩ := Option.map_eq_some_iff.1 hd
    cases heq
    refine ⟨ds₁ ++ skipped, d.1, ds₂, i, by simp, hj, ?_, ?_⟩
    · intro q hq j hqj
      rcases List.mem_append.1 hq with hq | hq
      · exact hbefore (j, q.2) (List.mem_filterMap.2 ⟨q, hq, (hfits q j).2 hqj⟩)
      · have hnone := hskipped q hq
        rw [hqj] at hnone
        cases hnone
    · intro q hq j hqj
      exact hafter (j, q.2) (List.mem_filterMap.2 ⟨q, hq, (hfits q j).2 hqj⟩)
  · rintro ⟨before, d, after, i, rfl, hi, hbefore, hafter⟩
    refine ⟨(i, n), ?_, rfl⟩
    unfold fitting
    refine nearest?_eq_some_iff.2 ⟨fitting before k, fitting after k, ?_, ?_, ?_⟩
    · simp [fitting, hi]
    · intro q hq
      obtain ⟨p, hp, hpq⟩ := List.mem_filterMap.1 hq
      obtain ⟨j, hj, rfl⟩ := Option.map_eq_some_iff.1 hpq
      exact hbefore p hp j hj
    · intro q hq
      obtain ⟨p, hp, hpq⟩ := List.mem_filterMap.1 hq
      obtain ⟨j, hj, rfl⟩ := Option.map_eq_some_iff.1 hpq
      exact hafter p hp j hj

/-- No number is chosen for a kind just when nothing is declared for it or above it. -/
theorem ofKind?_eq_none_iff {ds : List Declaration} {k : ErrorKind} :
    ofKind? ds k = none ↔ Undeclared ds k := by
  unfold ofKind? fitting Undeclared
  rw [Option.map_eq_none_iff, nearest?_eq_none_iff, List.filterMap_eq_nil_iff]
  simp only [Option.map_eq_none_iff, ErrorKind.depthTo_eq_none_iff]

/-- What is chosen for a kind depends on its ancestry alone. -/
theorem ofKind?_congr {k l : ErrorKind} (h : k.lineage = l.lineage) (ds : List Declaration) :
    ofKind? ds k = ofKind? ds l := by
  unfold ofKind? fitting
  simp only [ErrorKind.depthTo_congr h]

end Choice

namespace Resolver

variable {α : Type u} {cs : List (List ErrorKind × α)} {r : Resolver α} {K : ErrorKind → Prop}
  {k : ErrorKind} {e : Failure}

/-- The candidates with the kinds that they are declared for, in the order of declaration. -/
def declared (cs : List (List ErrorKind × α)) : List (ErrorKind × α) :=
  cs.flatMap fun c => c.1.map fun k => (k, c.2)

/-- The candidate with a number. -/
def numbered? (cs : List (List ErrorKind × α)) (n : Nat) : Option α := cs[n]?.map Prod.snd

/-- Every number that is declared is that of its candidate. -/
theorem declarations_numbered (cs : List (List ErrorKind × α)) :
    (Choice.declarations (cs.map Prod.fst)).map (fun d => (d.1, numbered? cs d.2)) =
      (declared cs).map fun p => (p.1, some p.2) := by
  -- Of candidates that come after `past`, the numbers begin where those of `past` end.
  suffices ∀ past rest : List (List ErrorKind × α),
      (Choice.declarationsFrom past.length (rest.map Prod.fst)).map
        (fun d => (d.1, numbered? (past ++ rest) d.2)) =
      (declared rest).map fun p => (p.1, some p.2) from this [] cs
  intro past rest
  induction rest generalizing past with
  | nil => rfl
  | cons c rest ih =>
      have hhead : numbered? (past ++ c :: rest) past.length = some c.2 := by simp [numbered?]
      have htail := ih (past ++ [c])
      rw [List.append_assoc, List.length_append] at htail
      simp only [List.map_cons, Choice.declarationsFrom, declared, List.flatMap_cons,
        List.map_append, List.map_map]
      congr 1
      apply List.map_congr_left
      intro k _
      exact Prod.ext rfl hhead

/-- A candidate is found by its number just when its declaration is the nearest. -/
theorem ofKind?_numbered_iff {a : α} :
    (∃ n, Choice.ofKind? (Choice.declarations (cs.map Prod.fst)) k = some n ∧
      numbered? cs n = some a) ↔ Choice.Nearest (declared cs) k a := by
  simp only [Choice.ofKind?_eq_some_iff]
  rw [← Choice.nearest_map (numbered? cs), declarations_numbered, Choice.nearest_map]
  simp

theorem ofKind?_declared_eq_none_iff :
    Choice.ofKind? (Choice.declarations (cs.map Prod.fst)) k = none ↔
      Choice.Undeclared (declared cs) k := by
  have hkinds := congrArg (List.map Prod.fst) (declarations_numbered cs)
  rw [List.map_map, List.map_map] at hkinds
  rw [Choice.ofKind?_eq_none_iff, Choice.undeclared_iff_kinds, Choice.undeclared_iff_kinds]
  exact iff_of_eq (congrArg (fun ds => ∀ d ∈ ds, d.name ∉ k.lineage) hkinds)

/-- The rule for failures, by what is declared. -/
theorem resolveAfresh_eq_some_iff {a : α} :
    (ofCandidates cs).resolveAfresh e = some a ↔ Choice.Selected (declared cs) e a := by
  show (Choice.ofFailure? (Choice.declarations (cs.map Prod.fst)) e).bind (numbered? cs) = _ ↔ _
  unfold Choice.ofFailure?
  rw [Option.bind_eq_some_iff]
  constructor
  · rintro ⟨n, hfound, hn⟩
    obtain ⟨before, l, after, hchain, hl, hbefore⟩ := List.findSome?_eq_some_iff.1 hfound
    refine ⟨before, l, after, hchain, ?_, ofKind?_numbered_iff.1 ⟨n, hl, hn⟩⟩
    intro b hb
    exact ofKind?_declared_eq_none_iff.1 (hbefore b hb)
  · rintro ⟨before, l, after, hchain, hbefore, hnear⟩
    obtain ⟨n, hl, hn⟩ := ofKind?_numbered_iff.2 hnear
    refine ⟨n, List.findSome?_eq_some_iff.2 ⟨before, l, after, hchain, hl, ?_⟩, hn⟩
    intro b hb
    exact ofKind?_declared_eq_none_iff.2 (hbefore b hb)

/-- A number that is chosen is that of a candidate. -/
theorem exists_numbered_of_ofKind? {n : Nat}
    (h : Choice.ofKind? (Choice.declarations (cs.map Prod.fst)) k = some n) :
    ∃ a, numbered? cs n = some a := by
  obtain ⟨before, d, after, _, heq, _⟩ := Choice.ofKind?_eq_some_iff.1 h
  have hmem : (d, numbered? cs n) ∈ (declared cs).map fun p => (p.1, some p.2) := by
    rw [← declarations_numbered, heq]
    simp
  obtain ⟨p, _, hp⟩ := List.mem_map.1 hmem
  exact ⟨p.2, (Prod.mk.inj hp).2.symm⟩

/-- There is no candidate just when nothing is declared for any error in the chain of causes. -/
theorem resolveAfresh_eq_none_iff :
    (ofCandidates cs).resolveAfresh e = none ↔
      ∀ l ∈ e.chain, Choice.Undeclared (declared cs) l.kind := by
  show (Choice.ofFailure? (Choice.declarations (cs.map Prod.fst)) e).bind (numbered? cs) = _ ↔ _
  have hfailure : Choice.ofFailure? (Choice.declarations (cs.map Prod.fst)) e = none ↔
      ∀ l ∈ e.chain, Choice.Undeclared (declared cs) l.kind := by
    unfold Choice.ofFailure?
    rw [List.findSome?_eq_none_iff]
    simp only [ofKind?_declared_eq_none_iff]
  rw [← hfailure]
  cases hfound : Choice.ofFailure? (Choice.declarations (cs.map Prod.fst)) e with
  | none => simp
  | some n =>
      obtain ⟨_, l, _, _, hl, _⟩ := List.findSome?_eq_some_iff.1 hfound
      obtain ⟨a, ha⟩ := exists_numbered_of_ofKind? hl
      simp [ha]

/-! ## What is remembered -/

/-- Whatever a resolver remembers under the name of a kind is what the rule says about the kind. -/
def Faithful (K : ErrorKind → Prop) (r : Resolver α) : Prop :=
  ∀ k, K k → ∀ found, r.known.find? k.name = some found → found = Choice.ofKind? r.declarations k

theorem faithful_ofCandidates (K : ErrorKind → Prop) (cs : List (List ErrorKind × α)) :
    (ofCandidates cs).Faithful K := by
  intro k _ found h
  cases h

theorem candidates_resolveKind (r : Resolver α) (k : ErrorKind) :
    (r.resolveKind k).2.candidates = r.candidates := by
  unfold resolveKind
  split <;> rfl

theorem declarations_congr {r' : Resolver α} (h : r'.candidates = r.candidates) :
    r'.declarations = r.declarations := by
  unfold declarations
  rw [h]

/-- The rule looks at the candidates alone. -/
theorem resolveAfresh_congr {r' : Resolver α} (h : r'.candidates = r.candidates) (e : Failure) :
    r'.resolveAfresh e = r.resolveAfresh e := by
  unfold resolveAfresh
  rw [declarations_congr h, h]

/-- Remembered or not, the answer for a kind is that of the rule. -/
theorem resolveKind_fst (hr : r.Faithful K) (hk : K k) :
    (r.resolveKind k).1 = Choice.ofKind? r.declarations k := by
  unfold resolveKind
  split
  · next found hfound => exact hr k hk found hfound
  · rfl

/-- What is found out about one kind is right for every kind of its name. -/
theorem Faithful.resolveKind (hK : ErrorKind.CoherentOn K) (hr : r.Faithful K) (hk : K k) :
    (r.resolveKind k).2.Faithful K := by
  unfold Resolver.resolveKind
  split
  · exact hr
  · intro l hl found hfound
    show found = Choice.ofKind? r.declarations l
    rw [Dict.find?_insert] at hfound
    split at hfound
    · next hname =>
        cases hfound
        exact Choice.ofKind?_congr (hK k l hk hl hname.symm) r.declarations
    · exact hr l hl found hfound

/-- Resolving a chain of errors, by the rule and with the memory kept right. -/
theorem resolveLinks_spec (hK : ErrorKind.CoherentOn K) (hr : r.Faithful K) {ls : List Link}
    (hls : ∀ l ∈ ls, K l.kind) :
    (r.resolveLinks ls).1 = ls.findSome? (fun l => Choice.ofKind? r.declarations l.kind) ∧
      (r.resolveLinks ls).2.Faithful K ∧ (r.resolveLinks ls).2.candidates = r.candidates := by
  induction ls generalizing r with
  | nil => exact ⟨rfl, hr, rfl⟩
  | cons l ls ih =>
      have hl : K l.kind := hls l List.mem_cons_self
      have hanswer := resolveKind_fst hr hl
      have hfaithful := hr.resolveKind hK hl
      have hsame := candidates_resolveKind r l.kind
      unfold resolveLinks
      rw [List.findSome?_cons, ← hanswer]
      cases hresult : r.resolveKind l.kind with
      | mk found r' =>
          rw [hresult] at hfaithful hsame
          cases found with
          | some n => exact ⟨rfl, hfaithful, hsame⟩
          | none =>
              -- The candidates are the same, so the rest of the chain is judged as before.
              obtain ⟨hfst, hkept, hrest⟩ := ih hfaithful fun l hl => hls l (List.mem_cons_of_mem _ hl)
              rw [declarations_congr hsame] at hfst
              exact ⟨hfst, hkept, hrest.trans hsame⟩

/-- One call: the answer is that of the rule, and the memory stays right. -/
theorem resolve_spec (hK : ErrorKind.CoherentOn K) (hr : r.Faithful K) (he : ∀ k ∈ e.kinds, K k) :
    (r.resolve e).1 = r.resolveAfresh e ∧ (r.resolve e).2.Faithful K ∧
      (r.resolve e).2.candidates = r.candidates := by
  have hlinks : ∀ l ∈ e.chain, K l.kind := fun l hl => he l.kind (List.mem_map_of_mem hl)
  obtain ⟨hfst, hfaithful, hsame⟩ := resolveLinks_spec hK hr hlinks
  unfold resolve
  refine ⟨?_, hfaithful, hsame⟩
  show (r.resolveLinks e.chain).1.bind (numbered? (r.resolveLinks e.chain).2.candidates) = _
  rw [hfst, hsame]
  rfl

/-! ## Any number of calls -/

/-- The resolver after it was asked for some failures, one after the other. -/
def after (r : Resolver α) (es : List Failure) : Resolver α :=
  es.foldl (fun r e => (r.resolve e).2) r

theorem after_spec (hK : ErrorKind.CoherentOn K) (hr : r.Faithful K) {es : List Failure}
    (hes : ∀ e ∈ es, ∀ k ∈ e.kinds, K k) :
    (r.after es).Faithful K ∧ (r.after es).candidates = r.candidates := by
  induction es generalizing r with
  | nil => exact ⟨hr, rfl⟩
  | cons e es ih =>
      obtain ⟨_, hfaithful, hsame⟩ := resolve_spec hK hr (hes e List.mem_cons_self)
      obtain ⟨hkept, hrest⟩ := ih hfaithful fun f hf => hes f (List.mem_cons_of_mem _ hf)
      exact ⟨hkept, hrest.trans hsame⟩

/-- Whatever a resolver was asked for before, it takes the candidate that the rule selects, and
none only if there is none. What it remembers makes no difference. -/
theorem resolve_after_iff (cs : List (List ErrorKind × α)) (earlier : List Failure) (e : Failure)
    (hkinds : ErrorKind.Coherent ((earlier ++ [e]).flatMap Failure.kinds)) :
    (∀ a, (((ofCandidates cs).after earlier).resolve e).1 = some a ↔
      Choice.Selected (declared cs) e a) ∧
    ((((ofCandidates cs).after earlier).resolve e).1 = none ↔
      ∀ l ∈ e.chain, Choice.Undeclared (declared cs) l.kind) ∧
    (((ofCandidates cs).after earlier).resolve e).1 = ((ofCandidates cs).resolve e).1 := by
  have hK := ErrorKind.coherentOn_mem hkinds
  have hmem : ∀ f ∈ earlier ++ [e], ∀ k ∈ f.kinds, k ∈ (earlier ++ [e]).flatMap Failure.kinds :=
    fun f hf k hk => List.mem_flatMap.2 ⟨f, hf, hk⟩
  have hfresh := faithful_ofCandidates (· ∈ (earlier ++ [e]).flatMap Failure.kinds) cs
  have hearlier : ∀ f ∈ earlier, ∀ k ∈ f.kinds, k ∈ (earlier ++ [e]).flatMap Failure.kinds :=
    fun f hf => hmem f (List.mem_append_left _ hf)
  obtain ⟨hfaithful, hsame⟩ := after_spec hK hfresh hearlier
  -- With a past and without one the answer is that of the rule.
  have hpast : (((ofCandidates cs).after earlier).resolve e).1 =
      (ofCandidates cs).resolveAfresh e := by
    rw [(resolve_spec hK hfaithful (hmem e (by simp))).1, resolveAfresh_congr hsame]
  have hnone : ((ofCandidates cs).resolve e).1 = (ofCandidates cs).resolveAfresh e :=
    (resolve_spec hK hfresh (hmem e (by simp))).1
  rw [hpast, hnone]
  exact ⟨fun a => resolveAfresh_eq_some_iff, resolveAfresh_eq_none_iff, rfl⟩

/-- Two candidates for the same kind, and one for the kind above it. -/
def counter : List (List ErrorKind × String) :=
  [([.runtime], "manager"), ([.invalidState, .panic], "clerk"), ([.invalidState], "porter")]

/-- A failure of a kind that nothing is declared for, because of one that two are declared for. -/
def wrapped : Failure := (Failure.new .error "refused").withCause (.invalidState "closed")

/-- The miss for the kind `error` is remembered; the cause goes to the clerk, who was declared
before the porter and for a nearer kind than the manager. -/
theorem resolve_after_iff_wrapped :
    ErrorKind.Coherent (([.new .error "down", wrapped] ++ [wrapped]).flatMap Failure.kinds) ∧
    (((ofCandidates counter).after [.new .error "down", wrapped]).resolve wrapped).1 =
      some "clerk" := by
  have hkinds : ErrorKind.Coherent
      (([.new .error "down", wrapped] ++ [wrapped]).flatMap Failure.kinds) := by decide
  refine ⟨hkinds, ((resolve_after_iff counter _ wrapped hkinds).1 "clerk").2 ?_⟩
  refine ⟨[⟨.error, "refused", none, none⟩], ⟨.invalidState, "closed", none, none⟩, [], rfl, ?_, ?_⟩
  · unfold Choice.Undeclared
    decide
  · refine ⟨[(.runtime, "manager")], .invalidState, [(.panic, "clerk"), (.invalidState, "porter")],
      0, rfl, rfl, ?_, ?_⟩
    · intro p hp i hi
      rw [List.mem_singleton.1 hp] at hi
      cases hi
      decide
    · intro p _ i _
      exact Nat.zero_le i

end Resolver

/-! ## The resolvers of all owners -/

namespace OwnerCache

variable {ρ : Type u} (c : OwnerCache ρ) (owner other : String)

theorem look?_update (r : ρ) :
    (c.update owner r).look? other = if other = owner then some r else c.look? other := by
  simp [update, look?]

/-- Whoever asks gets what the owner has, or else what is made now. -/
theorem getOrCreate_fst (create : Unit → ρ) :
    (c.getOrCreate owner create).1 = (c.look? owner).getD (create ()) := by
  unfold getOrCreate
  cases h : c.look? owner with
  | some r => rfl
  | none => rw [keep_fst, h]

theorem look?_getOrCreate_of_ne (create : Unit → ρ) (h : other ≠ owner) :
    (c.getOrCreate owner create).2.look? other = c.look? other := by
  unfold getOrCreate
  split
  · rfl
  · rw [look?_keep, if_neg h]

end OwnerCache

namespace ResolverCache

variable {α : Type u} {c : ResolverCache α} {K : ErrorKind → Prop}
  {candidates : String → List (List ErrorKind × α)} {e : Failure}

/-- Every resolver has the candidates of its owner, and what it remembers is right. -/
def Faithful (K : ErrorKind → Prop) (candidates : String → List (List ErrorKind × α))
    (c : ResolverCache α) : Prop :=
  ∀ owner r, c.look? owner = some r → r.Faithful K ∧ r.candidates = candidates owner

theorem faithful_empty : Faithful K candidates (.empty : ResolverCache α) := by
  intro owner r h
  cases h

/-- A call for an owner: the answer is that of the rule for the owner's candidates, and all
memories stay right. -/
theorem resolve_spec (hK : ErrorKind.CoherentOn K) (hc : c.Faithful K candidates)
    (he : ∀ k ∈ e.kinds, K k) (owner : String) :
    (c.resolve owner (fun _ => .ofCandidates (candidates owner)) e).1 =
        (Resolver.ofCandidates (candidates owner)).resolveAfresh e ∧
      (c.resolve owner (fun _ => .ofCandidates (candidates owner)) e).2.Faithful K candidates := by
  have hmade := c.getOrCreate_fst owner fun _ => Resolver.ofCandidates (candidates owner)
  have hother := fun other => c.look?_getOrCreate_of_ne owner other
    fun _ => Resolver.ofCandidates (candidates owner)
  unfold resolve
  cases hget : c.getOrCreate owner fun _ => Resolver.ofCandidates (candidates owner) with
  | mk r c' =>
      rw [hget] at hmade hother
      -- New or not, the resolver of the owner is right about the owner's candidates.
      obtain ⟨hr, hcandidates⟩ : r.Faithful K ∧ r.candidates = candidates owner := by
        cases hlook : c.look? owner with
        | some first =>
            rw [hlook] at hmade
            rw [show r = first from hmade]
            exact hc owner first hlook
        | none =>
            rw [hlook] at hmade
            rw [show r = .ofCandidates (candidates owner) from hmade]
            exact ⟨Resolver.faithful_ofCandidates K _, rfl⟩
      obtain ⟨hfst, hkept, hsame⟩ := Resolver.resolve_spec hK hr he
      constructor
      · have hrule : r.resolveAfresh e =
            (Resolver.ofCandidates (candidates owner)).resolveAfresh e :=
          Resolver.resolveAfresh_congr hcandidates e
        exact hfst.trans hrule
      · intro other found hlook
        have hlook : (c'.update owner (r.resolve e).2).look? other = some found := hlook
        rw [OwnerCache.look?_update] at hlook
        split at hlook
        · next heq =>
            cases hlook
            rw [heq]
            exact ⟨hkept, hsame.trans hcandidates⟩
        · next hne =>
            rw [hother other hne] at hlook
            exact hc other found hlook

end ResolverCache

end Switchboard
