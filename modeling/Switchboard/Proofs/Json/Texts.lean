/-
# Switchboard.Proofs.Json.Texts -- what is written is read back

The text of a value is read as the value, with the ends of its arrays and objects in their places
(`scan_render`). This holds of all values that are `Legible`: there are no floating-point numbers in
them, their integers fit in sixty-four bits, and they are not nested too deeply.

Every function of the reader stops where the next part of the text begins. So each of the lemmas is
about a text with something behind it, which is what the function leaves: a quoted text ends by
itself (`readQuoted_escapes`), a number where no character of a number follows
(`readNumber_toDigits`), and with these a document by induction on the value. As every part has a
character at least, the length of the text is enough fuel.
-/

import Switchboard.Json.Reader
import Switchboard.Json.Writer

namespace Switchboard

/-! ## Digits -/

namespace Text

theorem le_ofDigitChars (ds : List Char) (n : Nat) : n ≤ Nat.ofDigitChars 10 ds n := by
  rw [Nat.ofDigitChars_eq_ofDigitChars_zero]
  have hpow : n ≤ 10 ^ ds.length * n := Nat.le_mul_of_pos_left n (Nat.pow_pos (by decide))
  exact Nat.le_trans hpow (Nat.le_add_right _ _)

theorem isDigit_of_mem_toDigits {n : Nat} {c : Char} (h : c ∈ Nat.toDigits 10 n) :
    c.isDigit = true :=
  Nat.isDigit_of_mem_toDigits (by decide) (by decide) h

/-- A number begins with a digit, and if it is not zero, with another one than zero. -/
theorem exists_toDigits_eq (n : Nat) :
    ∃ c ds, Nat.toDigits 10 n = c :: ds ∧ c.isDigit = true ∧ (c = '0' → n = 0) := by
  induction n using Nat.strongRecOn with
  | ind n ih =>
      rcases Nat.lt_or_ge n 10 with hlt | hle
      · refine ⟨n.digitChar, [], Nat.toDigits_of_lt_base hlt, ?_, Nat.digitChar_eq_zero.1⟩
        rw [Nat.isDigit_digitChar]
        exact decide_eq_true hlt
      · obtain ⟨c, ds, hds, hdigit, hc⟩ := ih (n / 10) (by omega)
        refine ⟨c, ds ++ [(n % 10).digitChar], ?_, hdigit, ?_⟩
        · rw [Nat.toDigits_of_base_le (by decide) hle, hds, List.cons_append]
        · intro heq
          have hzero := hc heq
          omega

end Text

namespace Json

/-! ## Documents of texts -/

mutual

/-- The document that the text of a value is read as. -/
def toTextDoc : Json → Doc
  | .null => .null
  | .bool b => .bool b
  | .integer n => .integer n
  | .float x => .float x
  | .string s => .string s
  | .array items => .array (toTextItems items) .closed
  | .object fields => .object (toTextFields fields) .closed

/-- The documents that the texts of some values are read as. -/
def toTextItems : List Json → List Doc
  | [] => []
  | v :: vs => toTextDoc v :: toTextItems vs

/-- The documents that the texts of some named values are read as. -/
def toTextFields : List (String × Json) → List (String × Doc)
  | [] => []
  | (k, v) :: fs => (k, toTextDoc v) :: toTextFields fs

end

mutual

/-- The text of a value can be read back where `room` levels may still be opened. -/
def Legible : (room : Nat) → Json → Prop
  | _, .integer n => -2 ^ 63 ≤ n ∧ n < 2 ^ 64
  | _, .float _ => False
  | room, .array items => room ≠ 0 ∧ LegibleItems (room - 1) items
  | room, .object fields => room ≠ 0 ∧ LegibleFields (room - 1) fields
  | _, _ => True

/-- The texts of some values can be read back. -/
def LegibleItems : (room : Nat) → List Json → Prop
  | _, [] => True
  | room, v :: vs => Legible room v ∧ LegibleItems room vs

/-- The texts of some named values can be read back. -/
def LegibleFields : (room : Nat) → List (String × Json) → Prop
  | _, [] => True
  | room, (_, v) :: fs => Legible room v ∧ LegibleFields room fs

end

namespace Reader

variable {c : Char} {cs ds rest acc : List Char} {n fuel room : Nat}

/-! ## Numbers -/

/-- Nothing follows that would belong to a number. -/
def EndsNumber (rest : List Char) : Prop :=
  ∀ c ∈ rest.head?, c.isDigit = false ∧ c ≠ '.' ∧ c ≠ 'e' ∧ c ≠ 'E'

theorem appendDigits_eq (hmax : Nat.ofDigitChars 10 ds n < UInt64.size) :
    appendDigits n ds = (Nat.ofDigitChars 10 ds n, 0) := by
  induction ds generalizing n with
  | nil => rfl
  | cons d ds ih =>
      rw [Nat.ofDigitChars_cons] at hmax ⊢
      have hlt : 10 * n + (d.toNat - '0'.toNat) < UInt64.size :=
        Nat.lt_of_le_of_lt (Text.le_ofDigitChars ds _) hmax
      rw [appendDigits, if_pos hlt]
      exact ih hmax

theorem span_toDigits (hrest : EndsNumber rest) :
    (Nat.toDigits 10 n ++ rest).takeWhile Char.isDigit = Nat.toDigits 10 n ∧
      (Nat.toDigits 10 n ++ rest).dropWhile Char.isDigit = rest := by
  have hdigits : ∀ c ∈ Nat.toDigits 10 n, c.isDigit = true :=
    fun c hc => Text.isDigit_of_mem_toDigits hc
  rw [List.takeWhile_append_of_pos hdigits, List.dropWhile_append_of_pos hdigits]
  cases rest with
  | nil => simp
  | cons c rest => simp [(hrest c rfl).1]

/-- The digits of a number are read as the number. -/
theorem readNumber_toDigits (negative : Bool) (hn : n < UInt64.size) (hrest : EndsNumber rest) :
    readNumber negative (Nat.toDigits 10 n ++ rest) = readTail negative n 0 rest := by
  by_cases hzero : n = 0
  · subst hzero
    show readNumber negative ('0' :: rest) = _
    unfold readNumber
    cases rest with
    | nil => simp
    | cons d rest => simp [(hrest d rfl).1]
  · obtain ⟨c, ds, hds, hdigit, hc⟩ := Text.exists_toDigits_eq n
    obtain ⟨htake, hdrop⟩ := span_toDigits (n := n) hrest
    have happend : appendDigits 0 (Nat.toDigits 10 n) = (n, 0) := by
      rw [appendDigits_eq (by rwa [Nat.ofDigitChars_ten_toDigits]), Nat.ofDigitChars_ten_toDigits]
    have hne : c ≠ '0' := fun heq => hzero (hc heq)
    rw [hds] at happend
    rw [hds, List.cons_append] at htake hdrop ⊢
    unfold readNumber
    simp only [if_neg hne, if_pos hdigit, htake, hdrop, happend]

/-- What follows the digits of an integer. -/
theorem readTail_of_ends (negative : Bool) (n : Nat) (hrest : EndsNumber rest) :
    readTail negative n 0 rest =
      if !negative then .good (.integer n) rest
      else if n = 0 || Nat.pow 2 63 < n then finish true n 0 rest
      else .good (.integer (-n)) rest := by
  unfold readTail
  split
  · exact absurd rfl (hrest _ rfl).2.1
  · exact absurd rfl (hrest _ rfl).2.2.1
  · exact absurd rfl (hrest _ rfl).2.2.2
  · rfl

/-! ## Quoted texts -/

/-- Characters as they stand inside a text. -/
def escapes (cs : List Char) : List Char := cs.flatMap fun c => (escapedChar c).toList

theorem toList_renderText (s : String) :
    (renderText s).toList = '"' :: (escapes s.toList ++ ['"']) := by
  simp [renderText, escapes, String.toList_join, List.flatMap_map]

theorem escapedChar_ne_nil (c : Char) : (escapedChar c).toList ≠ [] := by
  unfold escapedChar
  repeat' split
  all_goals simp

theorem readHex_hexPadded (hn : n < 32) (rest : List Char) :
    readHex ((Text.hexPadded 4 n).toList ++ rest) = .ok (n, rest) := by
  have htext : ∀ n < 32, (Text.hexPadded 4 n).toList =
      ['0', '0', Nat.digitChar (n / 16), Nat.digitChar (n % 16)] := by decide
  have hdigit : ∀ d < 16, hexDigit? (Nat.digitChar d) = some d := by decide
  have hzero : hexDigit? '0' = some 0 := by decide
  rw [htext n hn]
  simp only [List.cons_append, List.nil_append, readHex, hzero, hdigit (n / 16) (by omega),
    hdigit (n % 16) (by omega)]
  congr 2
  omega

/-- An escaped character is read as the character. -/
theorem readText_escapedChar (acc : List Char) (fuel : Nat) (c : Char) (rest : List Char) :
    readText acc (fuel + 1) ((escapedChar c).toList ++ rest) = readText (c :: acc) fuel rest := by
  unfold escapedChar
  iterate 7
    split
    · next h => subst h; rfl
  split
  · next h =>
      have hread : readEscape ('u' :: ((Text.hexPadded 4 c.toNat).toList ++ rest)) =
          .ok (c, rest) := by
        have hlow : ¬0xDC00 ≤ c.toNat := by omega
        have hhigh : ¬0xD800 ≤ c.toNat := by omega
        simp [readEscape, readHex_hexPadded h, hlow, hhigh, Char.ofNat_toNat]
      rw [String.toList_append]
      show readText acc (fuel + 1) ('\\' :: 'u' :: ((Text.hexPadded 4 c.toNat).toList ++ rest)) = _
      rw [readText, hread]
  · next hquote hslash _ _ _ _ _ hcontrol =>
      have hself : c.toString.toList = [c] := String.toList_singleton c
      rw [hself, List.singleton_append]
      conv => lhs; unfold readText
      split
      · next heq => cases heq
      · next heq => exact absurd (List.cons.inj heq).1 hquote
      · next heq => exact absurd (List.cons.inj heq).1 hslash
      · next heq =>
          cases heq
          rw [if_neg hcontrol]

theorem length_le_escapes (cs : List Char) : cs.length ≤ (escapes cs).length := by
  induction cs with
  | nil => exact Nat.le_refl 0
  | cons c cs ih =>
      have hpos := List.length_pos_iff.2 (escapedChar_ne_nil c)
      rw [escapes, List.flatMap_cons, List.length_append, List.length_cons]
      show cs.length + 1 ≤ _ + (escapes cs).length
      omega

theorem readText_escapes (hfuel : cs.length < fuel) :
    readText acc fuel (escapes cs ++ '"' :: rest) =
      .ok (String.ofList (acc.reverse ++ cs), rest) := by
  induction cs generalizing acc fuel with
  | nil =>
      obtain ⟨fuel, rfl⟩ := Nat.exists_eq_succ_of_ne_zero (Nat.ne_of_gt hfuel)
      simp [escapes, readText]
  | cons c cs ih =>
      rw [List.length_cons] at hfuel
      obtain ⟨fuel, rfl⟩ := Nat.exists_eq_succ_of_ne_zero (show fuel ≠ 0 by omega)
      rw [escapes, List.flatMap_cons, List.append_assoc, readText_escapedChar]
      refine (ih (by omega)).trans ?_
      rw [List.reverse_cons, List.append_assoc, List.singleton_append]

/-- A quoted text is read as the text that was written. -/
theorem readQuoted_escapes (s : String) (rest : List Char) :
    readQuoted (escapes s.toList ++ '"' :: rest) = .good s rest := by
  have hfuel : s.toList.length < (escapes s.toList ++ '"' :: rest).length + 1 := by
    have hle := length_le_escapes s.toList
    rw [List.length_append]
    omega
  unfold readQuoted
  rw [readText_escapes hfuel, List.reverse_nil, List.nil_append, String.ofList_toList]

/-! ## Documents -/

/-- Texts with a comma before each of them but the very first. -/
def separated : (first : Bool) → List String → List Char
  | _, [] => []
  | first, s :: ss => (if first then [] else [',']) ++ (s.toList ++ separated false ss)

theorem toList_intercalate_comma (ss : List String) :
    (String.intercalate "," ss).toList = separated true ss := by
  have hrest (s : String) (ss : List String) : (String.intercalate "," (s :: ss)).toList =
      s.toList ++ separated false ss := by
    induction ss generalizing s with
    | nil => simp [separated]
    | cons t ss ih =>
        have ht := ih t
        rw [String.toList_intercalate, List.map_cons] at ht ⊢
        rw [List.map_cons, List.intercalate_cons_cons, List.append_assoc, ht]
        rfl
  cases ss with
  | nil => rfl
  | cons s ss => exact hrest s ss

theorem toList_render_array (items : List Json) : (render (.array items)).toList =
    '[' :: (separated true (renderItems items) ++ [']']) := by
  rw [render, String.toList_append, String.toList_append, toList_intercalate_comma]
  rfl

theorem toList_render_object (fields : List (String × Json)) : (render (.object fields)).toList =
    '\x7b' :: (separated true (renderFields fields) ++ ['\x7d']) := by
  rw [render, String.toList_append, String.toList_append, toList_intercalate_comma]
  rfl

theorem toList_render_ofNat (n : Nat) : (render (.integer n)).toList = Nat.toDigits 10 n := by
  show (toString n).toList = _
  rw [Nat.toString_eq_ofList_toDigits, String.toList_ofList]

theorem toList_render_negSucc (n : Nat) :
    (render (.integer (Int.negSucc n))).toList = '-' :: Nat.toDigits 10 (n + 1) := by
  show ("-" ++ toString (n + 1)).toList = _
  simp

/-- How the text of a document may begin. -/
def Begins (c : Char) : Prop := c = 'n' ∨ c = 't' ∨ c = 'f' ∨ c = '"' ∨ c = '-' ∨ c = '[' ∨
  c = '\x7b' ∨ c.isDigit = true

theorem exists_render_eq {v : Json} (h : v.Legible room) :
    ∃ c cs, v.render.toList = c :: cs ∧ Begins c := by
  cases v with
  | null => exact ⟨'n', _, rfl, by simp [Begins]⟩
  | bool b =>
      cases b with
      | true => exact ⟨'t', _, rfl, by simp [Begins]⟩
      | false => exact ⟨'f', _, rfl, by simp [Begins]⟩
  | integer n =>
      cases n with
      | ofNat n =>
          obtain ⟨c, ds, hds, hc, _⟩ := Text.exists_toDigits_eq n
          exact ⟨c, ds, (toList_render_ofNat n).trans hds, by simp [Begins, hc]⟩
      | negSucc n => exact ⟨'-', _, toList_render_negSucc n, by simp [Begins]⟩
  | float x => exact h.elim
  | string s => exact ⟨'"', _, toList_renderText s, by simp [Begins]⟩
  | array items => exact ⟨'[', _, toList_render_array items, by simp [Begins]⟩
  | object fields => exact ⟨'\x7b', _, toList_render_object fields, by simp [Begins]⟩

theorem skipBlanks_cons (h : c ∉ [' ', '\n', '\t', '\r']) (cs : List Char) :
    skipBlanks (c :: cs) = c :: cs := by
  simp only [List.mem_cons, List.not_mem_nil, or_false, not_or] at h
  simp [skipBlanks, h]

theorem Begins.skipBlanks (h : Begins c) (cs : List Char) : skipBlanks (c :: cs) = c :: cs := by
  apply skipBlanks_cons
  rcases h with rfl | rfl | rfl | rfl | rfl | rfl | rfl | hdigit
  iterate 7 decide
  intro hmem
  simp only [List.mem_cons, List.not_mem_nil, or_false] at hmem
  rcases hmem with rfl | rfl | rfl | rfl <;> cases hdigit

theorem Begins.ne_bracket (h : Begins c) : c ≠ ']' := by
  rintro rfl
  rcases h with h | h | h | h | h | h | h | h <;> cases h

section Parts

variable {d : Doc} {items : List Doc} {fields : List (String × Doc)} {left : List Char}

/-- An item is read, and then the others. -/
theorem readItems_cons (first : Bool) (hc : Begins c)
    (hitem : readDoc fuel room (c :: cs) = (d, some rest))
    (hrest : readItems fuel room false rest = ((items, .closed), some left)) :
    readItems (fuel + 1) room first ((if first then [] else [',']) ++ c :: cs) =
      ((d :: items, .closed), some left) := by
  have hne := hc.ne_bracket
  cases first with
  | true => simp [readItems, hc.skipBlanks, hitem, hrest]
  | false => simp [readItems, hc.skipBlanks, skipBlanks_cons, hne, hitem, hrest]

/-- A field is read, and then the others. -/
theorem readFields_cons (first : Bool) (k : String)
    (hvalue : readDoc fuel room cs = (d, some rest))
    (hrest : readFields fuel room false rest = ((fields, .closed), some left)) :
    readFields (fuel + 1) room first
        ((if first then [] else [',']) ++ ((renderText k).toList ++ ':' :: cs)) =
      (((k, d) :: fields, .closed), some left) := by
  rw [toList_renderText, List.cons_append, List.append_assoc]
  cases first <;> simp [readFields, skipBlanks_cons, readQuoted_escapes, hvalue, hrest]

end Parts

theorem endsNumber_of_separated (ss : List String) (hc : c = ']' ∨ c = '\x7d') :
    EndsNumber (separated false ss ++ c :: rest) := by
  intro d hd
  cases ss with
  | nil =>
      cases hd
      rcases hc with rfl | rfl <;> decide
  | cons s ss =>
      cases hd
      decide

/-- A document that begins with a digit is a number. -/
theorem readDoc_of_isDigit (hc : c.isDigit = true) (cs : List Char) :
    readDoc (fuel + 1) room (c :: cs) = ofLexeme ofNumber (readNumber false (c :: cs)) := by
  have hskip : skipBlanks (c :: cs) = c :: cs := Begins.skipBlanks (by simp [Begins, hc]) cs
  unfold readDoc
  rw [hskip]
  dsimp only
  split
  · next heq => cases heq
  iterate 7
    next heq =>
      rw [(List.cons.inj heq).1] at hc
      cases hc
  · next heq =>
      cases heq
      rw [if_pos hc]

/-- An integer is read as the integer that was written. -/
theorem readDoc_integer {n : Int} (h : Legible room (.integer n)) (hrest : EndsNumber rest) :
    readDoc (fuel + 1) room ((render (.integer n)).toList ++ rest) = (.integer n, some rest) := by
  obtain ⟨hlow, hhigh⟩ := h
  have hsize : UInt64.size = 2 ^ 64 := rfl
  cases n with
  | ofNat n =>
      have hn : n < UInt64.size := by
        rw [Int.ofNat_eq_natCast] at hhigh
        omega
      obtain ⟨c, ds, hds, hc, _⟩ := Text.exists_toDigits_eq n
      have hread : readNumber false (c :: (ds ++ rest)) = .good (.integer n) rest := by
        rw [← List.cons_append, ← hds, readNumber_toDigits false hn hrest,
          readTail_of_ends false n hrest]
        rfl
      show readDoc (fuel + 1) room ((render (.integer n)).toList ++ rest) = _
      rw [toList_render_ofNat, hds, List.cons_append, readDoc_of_isDigit hc, hread]
      rfl
  | negSucc n =>
      have hn : n + 1 < UInt64.size := by omega
      have hfits : ¬Nat.pow 2 63 < n + 1 := by
        show ¬2 ^ 63 < n + 1
        omega
      have hfinite : (n + 1 = 0 || Nat.pow 2 63 < n + 1) = false := by
        rw [decide_eq_false hfits]
        rfl
      have hread : readNumber true (Nat.toDigits 10 (n + 1) ++ rest) =
          .good (.integer (Int.negSucc n)) rest := by
        rw [readNumber_toDigits true hn hrest, readTail_of_ends true (n + 1) hrest, hfinite]
        rfl
      rw [toList_render_negSucc, List.cons_append]
      simp [readDoc, skipBlanks_cons, hread, ofLexeme, ofNumber]

mutual

/-- The text of a value is read as the value. -/
theorem readDoc_render (v : Json) {room fuel : Nat} {rest : List Char} (h : v.Legible room)
    (hfuel : v.render.toList.length ≤ fuel) (hrest : EndsNumber rest) :
    readDoc fuel room (v.render.toList ++ rest) = (v.toTextDoc, some rest) := by
  obtain ⟨fuel, rfl⟩ : ∃ k, fuel = k + 1 := by
    obtain ⟨c, cs, htext, _⟩ := exists_render_eq h
    rw [htext, List.length_cons] at hfuel
    exact Nat.exists_eq_succ_of_ne_zero (by omega)
  cases v with
  | null => rfl
  | bool b =>
      cases b with
      | true => rfl
      | false => rfl
  | integer n => exact readDoc_integer h hrest
  | float x => exact h.elim
  | string s =>
      have htext : (render (.string s)).toList = (renderText s).toList := rfl
      rw [htext, toList_renderText, List.cons_append, List.append_assoc]
      simp [readDoc, skipBlanks_cons, readQuoted_escapes, ofLexeme, toTextDoc]
  | array items =>
      obtain ⟨hroom, hitems⟩ := h
      rw [toList_render_array] at hfuel ⊢
      rw [List.length_cons, List.length_append, List.length_singleton] at hfuel
      have hread : readItems fuel (room - 1) true
          (separated true (renderItems items) ++ ']' :: rest) =
            ((toTextItems items, .closed), some rest) :=
        readItems_render items true hitems (by omega)
      rw [List.cons_append, List.append_assoc, List.singleton_append]
      simp [readDoc, skipBlanks_cons, hread, guardDepth, hroom, toTextDoc]
  | object fields =>
      obtain ⟨hroom, hfields⟩ := h
      rw [toList_render_object] at hfuel ⊢
      rw [List.length_cons, List.length_append, List.length_singleton] at hfuel
      have hread : readFields fuel (room - 1) true
          (separated true (renderFields fields) ++ '\x7d' :: rest) =
            ((toTextFields fields, .closed), some rest) :=
        readFields_render fields true hfields (by omega)
      rw [List.cons_append, List.append_assoc, List.singleton_append]
      simp [readDoc, skipBlanks_cons, hread, guardDepth, hroom, toTextDoc]

/-- The texts of some values are read one after the other. -/
theorem readItems_render (vs : List Json) {room fuel : Nat} {rest : List Char} (first : Bool)
    (h : LegibleItems room vs) (hfuel : (separated first (renderItems vs)).length < fuel) :
    readItems fuel room first (separated first (renderItems vs) ++ ']' :: rest) =
      ((toTextItems vs, .closed), some rest) := by
  obtain ⟨fuel, rfl⟩ : ∃ k, fuel = k + 1 := Nat.exists_eq_succ_of_ne_zero (by omega)
  match vs with
  | [] => rfl
  | v :: vs =>
      obtain ⟨hv, hvs⟩ := h
      obtain ⟨c, cs, htext, hc⟩ := exists_render_eq hv
      rw [renderItems, separated, List.length_append, List.length_append] at hfuel
      have hlength : v.render.toList.length = cs.length + 1 := by rw [htext, List.length_cons]
      have hdoc : readDoc fuel room
          (v.render.toList ++ (separated false (renderItems vs) ++ ']' :: rest)) =
            (v.toTextDoc, some (separated false (renderItems vs) ++ ']' :: rest)) :=
        readDoc_render v hv (by omega) (endsNumber_of_separated _ (.inl rfl))
      have hitems : readItems fuel room false (separated false (renderItems vs) ++ ']' :: rest) =
          ((toTextItems vs, .closed), some rest) :=
        readItems_render vs false hvs (by omega)
      rw [htext, List.cons_append] at hdoc
      rw [renderItems, separated, List.append_assoc, List.append_assoc, htext, List.cons_append]
      exact readItems_cons first hc hdoc hitems

/-- The texts of some named values are read one after the other. -/
theorem readFields_render (fs : List (String × Json)) {room fuel : Nat} {rest : List Char}
    (first : Bool) (h : LegibleFields room fs)
    (hfuel : (separated first (renderFields fs)).length < fuel) :
    readFields fuel room first (separated first (renderFields fs) ++ '\x7d' :: rest) =
      ((toTextFields fs, .closed), some rest) := by
  obtain ⟨fuel, rfl⟩ : ∃ k, fuel = k + 1 := Nat.exists_eq_succ_of_ne_zero (by omega)
  match fs with
  | [] => rfl
  | (k, v) :: fs =>
      obtain ⟨hv, hfs⟩ := h
      have htext : (renderText k ++ ":" ++ render v).toList =
          (renderText k).toList ++ ':' :: (render v).toList := by
        simp
      rw [renderFields, separated, List.length_append, List.length_append, htext,
        List.length_append, List.length_cons] at hfuel
      have hdoc : readDoc fuel room
          (v.render.toList ++ (separated false (renderFields fs) ++ '\x7d' :: rest)) =
            (v.toTextDoc, some (separated false (renderFields fs) ++ '\x7d' :: rest)) :=
        readDoc_render v hv (by omega) (endsNumber_of_separated _ (.inr rfl))
      have hfields : readFields fuel room false
          (separated false (renderFields fs) ++ '\x7d' :: rest) =
            ((toTextFields fs, .closed), some rest) :=
        readFields_render fs false hfs (by omega)
      rw [renderFields, separated, List.append_assoc, List.append_assoc, htext, List.append_assoc,
        List.cons_append]
      exact readFields_cons first k hdoc hfields

end

end Reader

/-! ## Whole texts -/

/-- The text of a value is read as the value, and nothing of it is left. -/
theorem scan_render {v : Json} {room : Nat} (h : v.Legible room) :
    (scan v.render room).doc = v.toTextDoc ∧ (scan v.render room).trailing = none := by
  obtain ⟨c, cs, htext, hc⟩ := Reader.exists_render_eq h
  have hskip : Reader.skipBlanks v.render.toList = v.render.toList := by
    rw [htext, hc.skipBlanks]
  have hread : Reader.readDoc (2 * v.render.toList.length + 2) room (v.render.toList ++ []) =
      (v.toTextDoc, some []) :=
    Reader.readDoc_render v h (by omega) nofun
  rw [List.append_nil] at hread
  unfold scan
  dsimp only
  rw [hskip, hread]
  exact ⟨rfl, rfl⟩

end Json

end Switchboard
