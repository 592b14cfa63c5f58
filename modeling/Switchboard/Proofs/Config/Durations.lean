/-
# Switchboard.Proofs.Config.Durations -- durations are read as they were written

A duration is written as amounts of descending units, each at most once, and read as the sum of
whatever amounts there are. So the text of a duration is a list of `Part`s, and reading the text of
such a list adds the parts one after the other (`readSum_intercalate`). No sum on the way is greater
than the duration itself, which is why nothing overflows (`foldlM_plusWhole?`).

A duration `Fits` if its seconds do in sixty-four bits. Only such durations are what reading gives
(`fits_ofText?`), and each of them is read as it was written (`ofText?_text`).
-/

import Switchboard.Duration
import Switchboard.Proofs.Json.Texts

namespace Switchboard

namespace Duration

variable {d e : Duration} {n k : Nat} {u : TimeUnit} {cs rest : List Char}

/-! ## Amounts in sixty-four bits -/

/-- The whole seconds fit in sixty-four bits. -/
def Fits (d : Duration) : Prop := d.nanos / perSecond ≤ maxAmount

theorem two_mul_perSecond_le : 2 * perSecond ≤ maxAmount := by decide

theorem checked_eq_some {m : Nat} : checked n = some m ↔ n ≤ maxAmount ∧ m = n := by
  unfold checked
  split
  · next h => simp [h, eq_comm]
  · next h => simp [h]

theorem checked_of_le (h : n ≤ maxAmount) : checked n = some n := if_pos h

/-- Whatever is added, the sum fits, or else there is none. -/
theorem fits_plus? {s m : Nat} (h : d.plus? s m = some e) : e.Fits := by
  obtain ⟨below, hbelow, h⟩ := Option.bind_eq_some_iff.1 h
  obtain ⟨above, habove, h⟩ := Option.bind_eq_some_iff.1 h
  cases h
  obtain ⟨hle, rfl⟩ := checked_eq_some.1 habove
  have hmod : below % perSecond < perSecond := Nat.mod_lt _ (by decide)
  unfold Fits
  rw [Nat.add_comm, Nat.add_mul_div_right _ _ (by decide), Nat.div_eq_of_lt hmod, Nat.zero_add]
  exact hle

/-- If the sum fits and what is added below the second is little, the sum is what it should be. -/
theorem plus?_eq (s m : Nat) (hm : m ≤ perSecond)
    (hfits : (⟨d.nanos + s * perSecond + m⟩ : Duration).Fits) :
    d.plus? s m = some ⟨d.nanos + s * perSecond + m⟩ := by
  unfold Fits at hfits
  unfold plus?
  have hbelow : d.nanos % perSecond + m ≤ maxAmount := by
    have hmod : d.nanos % perSecond < perSecond := Nat.mod_lt _ (by decide)
    have hsmall := two_mul_perSecond_le
    omega
  have habove : d.nanos / perSecond + s + (d.nanos % perSecond + m) / perSecond =
      (d.nanos + s * perSecond + m) / perSecond := by
    simp only [perSecond]
    omega
  rw [checked_of_le hbelow]
  dsimp only [Option.bind_eq_bind, Option.bind_some]
  rw [checked_of_le (by rwa [habove]), habove]
  dsimp only [Option.bind_some]
  have hsum : (d.nanos + s * perSecond + m) / perSecond * perSecond +
      (d.nanos % perSecond + m) % perSecond = d.nanos + s * perSecond + m := by
    simp only [perSecond]
    omega
  rw [hsum]

/-- The length of a unit in nanoseconds. -/
def TimeUnit.length (u : TimeUnit) : Nat :=
  match u.seconds? with
  | some k => k * perSecond
  | none => u.nanos?.getD 1

/-- Adding whole units adds their length; of units below the second there should be few. -/
theorem plusWhole?_eq (hfew : u.seconds? = none → n * u.length ≤ perSecond)
    (hfits : (⟨d.nanos + n * u.length⟩ : Duration).Fits) :
    d.plusWhole? n u = some ⟨d.nanos + n * u.length⟩ := by
  unfold plusWhole?
  cases hu : u.seconds? with
  | some k =>
      have hlength : n * u.length = n * k * perSecond := by
        rw [TimeUnit.length, hu, Nat.mul_assoc]
      rw [hlength] at hfits ⊢
      have hle : n * k ≤ maxAmount := by
        unfold Fits at hfits
        rw [Nat.add_mul_div_right _ _ (by decide)] at hfits
        exact Nat.le_trans (Nat.le_add_left _ _) hfits
      dsimp only
      rw [checked_of_le hle]
      have hsum := plus?_eq (d := d) (n * k) 0 (Nat.zero_le _) (by rwa [Nat.add_zero])
      rwa [Nat.add_zero] at hsum
  | none =>
      have hlength : u.length = u.nanos?.getD 1 := by
        rw [TimeUnit.length, hu]
      have hsmall := hfew hu
      rw [hlength] at hsmall hfits ⊢
      have hle : n * u.nanos?.getD 1 ≤ maxAmount := by
        have hsecond := two_mul_perSecond_le
        omega
      dsimp only
      rw [checked_of_le hle]
      have hsum := plus?_eq (d := d) 0 (n * u.nanos?.getD 1) hsmall (by simpa using hfits)
      rwa [Nat.zero_mul, Nat.add_zero] at hsum

/-! ## Reading digits -/

theorem digit?_of_isDigit {c : Char} (h : c.isDigit = true) :
    digit? c = some (c.toNat - '0'.toNat) := if_pos h

/-- Digits are read as the number that they write. -/
theorem readAmount_digits {ds : List Char} (hds : ∀ c ∈ ds, c.isDigit = true)
    (hmax : Nat.ofDigitChars 10 ds n ≤ maxAmount) (rest : List Char) :
    readAmount n (ds ++ rest) = readAmount (Nat.ofDigitChars 10 ds n) rest := by
  induction ds generalizing n with
  | nil => rfl
  | cons c ds ih =>
      rw [Nat.ofDigitChars_cons] at hmax ⊢
      have hle : n * 10 + (c.toNat - '0'.toNat) ≤ maxAmount := by
        have hgrow := Text.le_ofDigitChars ds (10 * n + (c.toNat - '0'.toNat))
        omega
      rw [List.cons_append, readAmount, digit?_of_isDigit (hds c List.mem_cons_self)]
      dsimp only
      rw [checked_of_le hle, Nat.mul_comm n 10]
      exact ih (fun c hc => hds c (List.mem_cons_of_mem _ hc)) hmax

/-! ## Reading parts -/

/-- A name that is read as a unit and made of letters only. -/
structure Names (word : String) (u : TimeUnit) : Prop where
  named : TimeUnit.ofName? word = some u
  letters : ∀ c ∈ word.toList, isUnitChar c = true ∧ digit? c = none ∧ Text.isBlank c = false
  nonempty : word.toList ≠ []

/-- Whether a name is one of a unit shows letter by letter. -/
theorem names_iff {word : String} : Names word u ↔ TimeUnit.ofName? word = some u ∧
    word.toList.all (fun c => isUnitChar c && (digit? c).isNone && !Text.isBlank c) = true ∧
    word.toList ≠ [] := by
  simp only [List.all_eq_true, Bool.and_eq_true, Option.isNone_iff_eq_none, Bool.not_eq_true',
    and_assoc]
  exact ⟨fun h => ⟨h.named, h.letters, h.nonempty⟩, fun h => ⟨h.1, h.2.1, h.2.2⟩⟩

instance (word : String) (u : TimeUnit) : Decidable (Names word u) :=
  decidable_of_iff _ names_iff.symm

/-- An amount of a unit as it is written. -/
structure Part where
  /-- How many units. -/
  count : Nat
  /-- The name of the unit. -/
  word : String
  /-- The unit. -/
  unit : TimeUnit

namespace Part

/-- The text. -/
def text (p : Part) : String := toString p.count ++ p.word

/-- The length. -/
def length (p : Part) : Nat := p.count * p.unit.length

/-- A part can be read: its word names the unit, and there are not too many units. -/
structure Legible (p : Part) : Prop where
  names : Names p.word p.unit
  few : p.unit.seconds? = none → p.length ≤ perSecond
  count_le : p.count ≤ maxAmount

end Part

theorem not_isBlank_of_isDigit {c : Char} (h : c.isDigit = true) : Text.isBlank c = false := by
  have hrange : 48 ≤ c.toNat ∧ c.toNat ≤ 57 := Char.isDigit_iff_toNat.1 h
  simp only [Text.isBlank, Bool.or_eq_false_iff, Bool.and_eq_false_iff, decide_eq_false_iff_not]
  omega

/-- Blanks before an amount do not matter. -/
theorem readSum_blank {c : Char} (h : Text.isBlank c = true) (fuel : Nat) :
    readSum d (fuel + 1) (c :: cs) = readSum d (fuel + 1) cs := by
  unfold readSum
  rw [List.dropWhile_cons_of_pos h]

/-- The letters of a unit end the amount. -/
theorem readAmount_word {p : Part} (hp : p.Legible) (n : Nat) (rest : List Char) :
    readAmount n (p.word.toList ++ rest) = some ((n, none), p.word.toList ++ rest) := by
  obtain ⟨c, cs, hword⟩ := List.exists_cons_of_ne_nil hp.names.nonempty
  obtain ⟨hletter, hdigit, hblank⟩ := hp.names.letters c (by rw [hword]; exact List.mem_cons_self)
  rw [hword, List.cons_append, readAmount, hdigit]
  simp [hblank, hletter]

/-- The letters of a unit go as far as something else follows. -/
theorem span_word {p : Part} (hp : p.Legible) (hrest : ∀ c ∈ rest.head?, isUnitChar c = false) :
    (p.word.toList ++ rest).takeWhile isUnitChar = p.word.toList ∧
      (p.word.toList ++ rest).dropWhile isUnitChar = rest := by
  have hletters : ∀ c ∈ p.word.toList, isUnitChar c = true := fun c hc => (hp.names.letters c hc).1
  rw [List.takeWhile_append_of_pos hletters, List.dropWhile_append_of_pos hletters]
  cases rest with
  | nil => simp
  | cons c rest =>
      have hc := hrest c rfl
      simp [hc]

/-- A part is read as what it is, if something else than a letter follows. -/
theorem readSum_part {p : Part} (hp : p.Legible) (hrest : ∀ c ∈ rest.head?, isUnitChar c = false)
    (fuel : Nat) : readSum d (fuel + 1) (p.text.toList ++ rest) =
      (d.plusWhole? p.count p.unit).bind fun e => readSum e fuel rest := by
  have hdigits : ∀ c ∈ Nat.toDigits 10 p.count, c.isDigit = true :=
    fun c hc => Text.isDigit_of_mem_toDigits hc
  have hcount : Nat.ofDigitChars 10 (Nat.toDigits 10 p.count) 0 = p.count :=
    Nat.ofDigitChars_ten_toDigits
  have htext : p.text.toList ++ rest = Nat.toDigits 10 p.count ++ (p.word.toList ++ rest) := by
    rw [Part.text, String.toList_append, Nat.toString_eq_ofList_toDigits, String.toList_ofList,
      List.append_assoc]
  obtain ⟨c, ds, hds, hc, _⟩ := Text.exists_toDigits_eq p.count
  rw [hds] at hdigits hcount htext
  rw [Nat.ofDigitChars_cons, Nat.mul_zero, Nat.zero_add] at hcount
  have hamount : readAmount (c.toNat - '0'.toNat) (ds ++ (p.word.toList ++ rest)) =
      some ((p.count, none), p.word.toList ++ rest) := by
    rw [readAmount_digits (fun c hc => hdigits c (List.mem_cons_of_mem _ hc))
      (by rw [hcount]; exact hp.count_le), hcount, readAmount_word hp]
  obtain ⟨htake, hdrop⟩ := span_word hp hrest
  rw [htext, readSum, List.cons_append,
    List.dropWhile_cons_of_neg (by simp [not_isBlank_of_isDigit hc])]
  simp only [digit?_of_isDigit hc, hamount, htake, hdrop, String.ofList_toList, hp.names.named,
    Option.bind_eq_bind, Option.bind_some]

/-- Parts that are written with a blank between them are added one after the other. -/
theorem readSum_intercalate {ps : List Part} (hps : ∀ p ∈ ps, p.Legible) {fuel : Nat}
    (hfuel : ps.length < fuel) :
    readSum d fuel (String.intercalate " " (ps.map Part.text)).toList =
      ps.foldlM (fun e p => e.plusWhole? p.count p.unit) d := by
  rw [String.toList_intercalate]
  induction ps generalizing d fuel with
  | nil =>
      obtain ⟨fuel, rfl⟩ := Nat.exists_eq_add_of_lt hfuel
      rfl
  | cons p ps ih =>
      obtain ⟨fuel, rfl⟩ : ∃ k, fuel = k + 1 := Nat.exists_eq_succ_of_ne_zero (by omega)
      have hp := hps p List.mem_cons_self
      have hrest : ∀ q ∈ ps, q.Legible := fun q hq => hps q (List.mem_cons_of_mem _ hq)
      rw [List.length_cons] at hfuel
      rw [List.foldlM_cons]
      cases ps with
      | nil =>
          have hend : ∀ c ∈ ([] : List Char).head?, isUnitChar c = false := by simp
          have hread := readSum_part (d := d) hp hend fuel
          rw [List.append_nil] at hread
          rw [List.map_cons, List.map_nil, List.map_cons, List.map_nil, List.intercalate_singleton,
            hread]
          refine congrArg (Option.bind _) (funext fun e => ?_)
          exact ih hrest (by simpa using hfuel)
      | cons q qs =>
          rw [List.map_cons, List.map_cons, List.map_cons, List.map_cons,
            List.intercalate_cons_cons, List.append_assoc]
          rw [readSum_part hp (by simp; decide) fuel]
          refine congrArg (Option.bind _) (funext fun e => ?_)
          obtain ⟨fuel, rfl⟩ : ∃ k, fuel = k + 1 := Nat.exists_eq_succ_of_ne_zero (by omega)
          show readSum e (fuel + 1) (' ' :: _) = _
          rw [readSum_blank (by decide)]
          exact ih hrest (by omega)

/-- What some parts add up to. -/
def sum : List Part → Nat
  | [] => 0
  | p :: ps => p.length + sum ps

/-- If all of it fits, every sum on the way does. -/
theorem foldlM_plusWhole? {ps : List Part} (hps : ∀ p ∈ ps, p.Legible)
    (hfits : (⟨d.nanos + sum ps⟩ : Duration).Fits) :
    ps.foldlM (fun e p => e.plusWhole? p.count p.unit) d = some ⟨d.nanos + sum ps⟩ := by
  induction ps generalizing d with
  | nil => rfl
  | cons p ps ih =>
      have hsum : d.nanos + sum (p :: ps) = d.nanos + p.length + sum ps := by
        simp [sum, Nat.add_assoc]
      rw [hsum] at hfits ⊢
      have hfirst : (⟨d.nanos + p.count * p.unit.length⟩ : Duration).Fits :=
        Nat.le_trans (Nat.div_le_div_right (Nat.le_add_right _ _)) hfits
      rw [List.foldlM_cons, plusWhole?_eq (hps p List.mem_cons_self).few hfirst]
      exact ih (fun q hq => hps q (List.mem_cons_of_mem _ hq)) hfits

/-! ## Writing parts -/

/-- One part, unless it would be zero. -/
def part (n : Nat) (word : String) (u : TimeUnit) : List Part :=
  if n = 0 then [] else [⟨n, word, u⟩]

theorem plural_eq (name : String) (n : Nat) (u : TimeUnit) :
    plural name n = (part n (name ++ if 1 < n then "s" else "") u).map Part.text := by
  unfold plural part
  split
  · rfl
  · rw [List.map_singleton, Part.text, String.append_assoc]

theorem amount_eq (name : String) (n : Nat) (u : TimeUnit) :
    amount name n = (part n name u).map Part.text := by
  unfold amount part
  split <;> rfl

theorem sum_part (n : Nat) (word : String) (u : TimeUnit) :
    sum (part n word u) = n * u.length := by
  unfold part
  split
  · next h => simp [h, sum]
  · simp [sum, Part.length]

theorem sum_append (ps qs : List Part) : sum (ps ++ qs) = sum ps + sum qs := by
  induction ps with
  | nil => simp [sum]
  | cons p ps ih => simp [sum, ih, Nat.add_assoc]

theorem names_plural {name : String} {u : TimeUnit} (hone : Names name u)
    (hmany : Names (name ++ "s") u) (n : Nat) : Names (name ++ if 1 < n then "s" else "") u := by
  split
  · exact hmany
  · rw [String.append_empty]
    exact hone

theorem legible_part {word : String} (hnames : Names word u)
    (hfew : u.seconds? = none → n * u.length ≤ perSecond) (hle : n ≤ maxAmount) :
    ∀ p ∈ part n word u, p.Legible := by
  intro p hp
  unfold part at hp
  split at hp
  · cases hp
  · rw [List.mem_singleton.1 hp]
    exact ⟨hnames, hfew, hle⟩

/-- The parts of a duration, from the largest unit to the smallest. -/
def parts (d : Duration) : List Part :=
  let secs := d.nanos / perSecond
  let nanos := d.nanos % perSecond
  let inYear := secs % 31557600
  let inMonth := inYear % 2630016
  let inDay := inMonth % 86400
  part (secs / 31557600) ("year" ++ if 1 < secs / 31557600 then "s" else "") .year ++
  part (inYear / 2630016) ("month" ++ if 1 < inYear / 2630016 then "s" else "") .month ++
  part (inMonth / 86400) ("day" ++ if 1 < inMonth / 86400 then "s" else "") .day ++
  part (inDay / 3600) "h" .hour ++ part (inDay % 3600 / 60) "m" .minute ++
  part (inDay % 60) "s" .second ++ part (nanos / 1000000) "ms" .millisecond ++
  part (nanos / 1000 % 1000) "us" .microsecond ++ part (nanos % 1000) "ns" .nanosecond

theorem text_eq (h : d.nanos ≠ 0) :
    d.text = String.intercalate " " (d.parts.map Part.text) := by
  unfold text parts
  rw [if_neg h]
  simp only [List.map_append]
  rw [plural_eq "year" _ .year, plural_eq "month" _ .month, plural_eq "day" _ .day,
    amount_eq "h" _ .hour, amount_eq "m" _ .minute, amount_eq "s" _ .second,
    amount_eq "ms" _ .millisecond, amount_eq "us" _ .microsecond, amount_eq "ns" _ .nanosecond]

theorem sum_parts (d : Duration) : sum d.parts = d.nanos := by
  unfold parts
  simp only [sum_append, sum_part, TimeUnit.length, TimeUnit.seconds?, TimeUnit.nanos?,
    Option.getD_some, perSecond]
  omega

theorem legible_parts (h : d.Fits) : ∀ p ∈ d.parts, p.Legible := by
  have hbelow : d.nanos % perSecond < perSecond := Nat.mod_lt _ (by decide)
  have hmax := two_mul_perSecond_le
  have hsecond : perSecond = 1000000000 := rfl
  unfold Fits at h
  simp only [parts, List.forall_mem_append]
  generalize d.nanos / perSecond = secs at h
  generalize d.nanos % perSecond = nanos at hbelow
  refine ⟨⟨⟨⟨⟨⟨⟨⟨?_, ?_⟩, ?_⟩, ?_⟩, ?_⟩, ?_⟩, ?_⟩, ?_⟩, ?_⟩
  -- The units with a plural.
  · exact legible_part (names_plural (by decide) (by decide) _) nofun (by omega)
  · exact legible_part (names_plural (by decide) (by decide) _) nofun (by omega)
  · exact legible_part (names_plural (by decide) (by decide) _) nofun (by omega)
  -- The other units from the second up.
  · exact legible_part (by decide) nofun (by omega)
  · exact legible_part (by decide) nofun (by omega)
  · exact legible_part (by decide) nofun (by omega)
  -- The units below the second.
  · refine legible_part (by decide) (fun _ => ?_) (by omega)
    rw [show TimeUnit.millisecond.length = 1000000 from rfl]
    omega
  · refine legible_part (by decide) (fun _ => ?_) (by omega)
    rw [show TimeUnit.microsecond.length = 1000 from rfl]
    omega
  · refine legible_part (by decide) (fun _ => ?_) (by omega)
    rw [show TimeUnit.nanosecond.length = 1 from rfl]
    omega

/-! ## Reading what was written -/

theorem parts_ne_nil (h : d.nanos ≠ 0) : d.parts ≠ [] := by
  intro hnil
  have hsum := sum_parts d
  rw [hnil] at hsum
  exact h hsum.symm

/-- The text of a part begins with a digit. -/
theorem Part.exists_text_eq (p : Part) : ∃ c cs, p.text.toList = c :: cs ∧ c.isDigit = true := by
  obtain ⟨c, ds, hds, hc, _⟩ := Text.exists_toDigits_eq p.count
  refine ⟨c, ds ++ p.word.toList, ?_, hc⟩
  rw [text, String.toList_append, Nat.toString_eq_ofList_toDigits, String.toList_ofList, hds,
    List.cons_append]

/-- So does the text of several parts. -/
theorem exists_intercalate_eq {ps : List Part} (h : ps ≠ []) :
    ∃ c cs, (String.intercalate " " (ps.map Part.text)).toList = c :: cs ∧ c.isDigit = true := by
  obtain ⟨p, ps, rfl⟩ := List.exists_cons_of_ne_nil h
  obtain ⟨c, cs, htext, hc⟩ := p.exists_text_eq
  rw [String.toList_intercalate, List.map_cons, List.map_cons, htext,
    List.intercalate_cons_cons_left]
  exact ⟨c, _, rfl, hc⟩

/-- Every part takes a character at least. -/
theorem length_le_intercalate (ps : List Part) :
    ps.length ≤ (String.intercalate " " (ps.map Part.text)).toList.length := by
  rw [String.toList_intercalate]
  induction ps with
  | nil => exact Nat.zero_le _
  | cons p ps ih =>
      obtain ⟨c, cs, htext, _⟩ := p.exists_text_eq
      rw [List.map_cons, List.map_cons, htext, List.intercalate_cons_cons_left, List.length_cons,
        List.length_cons]
      refine Nat.succ_le_succ (Nat.le_trans ih ?_)
      cases ps with
      | nil => exact Nat.zero_le _
      | cons q qs =>
          rw [List.map_cons, List.map_cons, List.intercalate_cons_cons, List.length_append]
          exact Nat.le_add_left _ _

/-- A duration that can be represented is read as it was written. -/
theorem ofText?_text (h : d.Fits) : ofText? d.text = some d := by
  by_cases hzero : d.nanos = 0
  · obtain ⟨nanos⟩ := d
    subst hzero
    rfl
  · have hfuel : d.parts.length < d.text.length + 1 := by
      have hlength := length_le_intercalate d.parts
      rw [← text_eq hzero, String.length_toList] at hlength
      omega
    have hread : readSum ⟨0⟩ (d.text.length + 1) d.text.toList = some d := by
      rw [text_eq hzero] at hfuel ⊢
      rw [readSum_intercalate (legible_parts h) hfuel, foldlM_plusWhole? (legible_parts h)]
      · rw [sum_parts, Nat.zero_add]
      · rw [sum_parts, Nat.zero_add]
        exact h
    have hnotZero : d.text ≠ "0" := by
      intro heq
      rw [heq] at hread
      cases hread
    have hnotBlank : ¬d.text.toList.all Text.isBlank = true := by
      obtain ⟨c, cs, hcs, hc⟩ := exists_intercalate_eq (parts_ne_nil hzero)
      rw [text_eq hzero, hcs, List.all_cons, not_isBlank_of_isDigit hc]
      exact nofun
    unfold ofText?
    rw [if_neg hnotZero, if_neg hnotBlank, hread]

/-! ## What can be read -/

theorem fits_plusWhole? (h : d.plusWhole? n u = some e) : e.Fits := by
  unfold plusWhole? at h
  split at h
  · obtain ⟨_, _, h⟩ := Option.bind_eq_some_iff.1 h
    exact fits_plus? h
  · obtain ⟨_, _, h⟩ := Option.bind_eq_some_iff.1 h
    exact fits_plus? h

theorem fits_plusFraction? (h : d.plusFraction? n k u = some e) : e.Fits := by
  unfold plusFraction? at h
  split at h
  · obtain ⟨_, _, h⟩ := Option.bind_eq_some_iff.1 h
    exact fits_plus? h
  · obtain ⟨_, _, h⟩ := Option.bind_eq_some_iff.1 h
    exact fits_plus? h

/-- Each amount keeps the sum in its bounds. -/
theorem fits_readSum {fuel : Nat} (hd : d.Fits) (h : readSum d fuel cs = some e) : e.Fits := by
  induction fuel generalizing d cs with
  | zero => cases h
  | succ fuel ih =>
      unfold readSum at h
      split at h
      · cases h
        exact hd
      · obtain ⟨_, _, h⟩ := Option.bind_eq_some_iff.1 h
        obtain ⟨⟨⟨n, fraction⟩, rest⟩, _, h⟩ := Option.bind_eq_some_iff.1 h
        obtain ⟨u, _, h⟩ := Option.bind_eq_some_iff.1 h
        obtain ⟨whole, hwhole, h⟩ := Option.bind_eq_some_iff.1 h
        cases fraction with
        | none => exact ih (fits_plusWhole? hwhole) h
        | some f =>
            obtain ⟨sum, hsum, h⟩ := Option.bind_eq_some_iff.1 h
            exact ih (fits_plusFraction? hsum) h

/-- What is read can be represented. -/
theorem fits_ofText? {s : String} (h : ofText? s = some d) : d.Fits := by
  have hzero : (⟨0⟩ : Duration).Fits := Nat.zero_le _
  unfold ofText? at h
  split at h
  · cases h
    exact hzero
  · split at h
    · cases h
    · exact fits_readSum hzero h

end Duration

end Switchboard
