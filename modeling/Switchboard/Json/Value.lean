/-
# Switchboard.Json.Value -- JSON values

Integers and floating-point numbers are kept apart: `1` and `1.0` are different values. An object
is a list of fields; the objects that the library makes have their keys in ascending order and
none twice (`Json.ofFields`), which is also the order in which they are written.
-/

import Switchboard.Dict
import Switchboard.Json.Double

namespace Switchboard

/-- A JSON value. -/
inductive Json where
  /-- The value `null`. -/
  | null
  /-- A truth value. -/
  | bool (b : Bool)
  /-- A number written without point and exponent. -/
  | integer (n : Int)
  /-- Any other number. -/
  | float (x : Double)
  /-- A text. -/
  | string (s : String)
  /-- A list of values. -/
  | array (items : List Json)
  /-- A list of named values. -/
  | object (fields : List (String × Json))

namespace Json

/-! ## Equality -/

mutual

/-- Equality of values is decidable. -/
def decEq : (a b : Json) → Decidable (a = b)
  | .null, .null => isTrue rfl
  | .bool a, .bool b => if h : a = b then isTrue (by rw [h]) else isFalse (by simp [h])
  | .integer a, .integer b => if h : a = b then isTrue (by rw [h]) else isFalse (by simp [h])
  | .float a, .float b => if h : a = b then isTrue (by rw [h]) else isFalse (by simp [h])
  | .string a, .string b => if h : a = b then isTrue (by rw [h]) else isFalse (by simp [h])
  | .array a, .array b =>
    match decEqItems a b with
    | isTrue h => isTrue (by rw [h])
    | isFalse h => isFalse (by simp [h])
  | .object a, .object b =>
    match decEqFields a b with
    | isTrue h => isTrue (by rw [h])
    | isFalse h => isFalse (by simp [h])
  | .null, .bool _ | .null, .integer _ | .null, .float _ | .null, .string _ | .null, .array _
  | .null, .object _ | .bool _, .null | .bool _, .integer _ | .bool _, .float _
  | .bool _, .string _ | .bool _, .array _ | .bool _, .object _ | .integer _, .null
  | .integer _, .bool _ | .integer _, .float _ | .integer _, .string _ | .integer _, .array _
  | .integer _, .object _ | .float _, .null | .float _, .bool _ | .float _, .integer _
  | .float _, .string _ | .float _, .array _ | .float _, .object _ | .string _, .null
  | .string _, .bool _ | .string _, .integer _ | .string _, .float _ | .string _, .array _
  | .string _, .object _ | .array _, .null | .array _, .bool _ | .array _, .integer _
  | .array _, .float _ | .array _, .string _ | .array _, .object _ | .object _, .null
  | .object _, .bool _ | .object _, .integer _ | .object _, .float _ | .object _, .string _
  | .object _, .array _ => isFalse (by simp)

/-- Equality of lists of values is decidable. -/
def decEqItems : (a b : List Json) → Decidable (a = b)
  | [], [] => isTrue rfl
  | [], _ :: _ | _ :: _, [] => isFalse (by simp)
  | x :: xs, y :: ys =>
    match decEq x y, decEqItems xs ys with
    | isTrue h, isTrue hs => isTrue (by rw [h, hs])
    | isFalse h, _ => isFalse (by simp [h])
    | _, isFalse h => isFalse (by simp [h])

/-- Equality of lists of fields is decidable. -/
def decEqFields : (a b : List (String × Json)) → Decidable (a = b)
  | [], [] => isTrue rfl
  | [], _ :: _ | _ :: _, [] => isFalse (by simp)
  | (k, x) :: xs, (l, y) :: ys =>
    if hk : k = l then
      match decEq x y, decEqFields xs ys with
      | isTrue h, isTrue hs => isTrue (by rw [hk, h, hs])
      | isFalse h, _ => isFalse (by simp [h])
      | _, isFalse h => isFalse (by simp [h])
    else isFalse (by simp [hk])

end

instance : DecidableEq Json := decEq

instance : Inhabited Json := ⟨.null⟩

/-! ## Making values -/

/-- The object with the given fields, in order; of a name that stands twice the last counts. -/
def ofFields (fields : List (String × Json)) : Json := .object (Entries.ofList fields)

/-- The object of a dictionary. -/
def ofDict (d : Dict Json) : Json := .object d.entries

/-- A natural number. -/
def ofNat (n : Nat) : Json := .integer n

/-- A text, or `null` for none. -/
def textOrNull : Option String → Json
  | some s => .string s
  | none => .null

/-- A list of texts. -/
def ofTexts (ss : List String) : Json := .array (ss.map .string)

/-! ## Taking values apart -/

/-- A field of an object. Other values have no fields. -/
def get? (v : Json) (name : String) : Option Json :=
  match v with
  | .object fields => Entries.find? name fields
  | _ => none

/-- The text, if the value is one. -/
def text? : Json → Option String
  | .string s => some s
  | _ => none

/-- The items, if the value is an array. -/
def items? : Json → Option (List Json)
  | .array vs => some vs
  | _ => none

/-- The truth value, if the value is one. -/
def bool? : Json → Option Bool
  | .bool b => some b
  | _ => none

/-- The integer, if the value is one. -/
def integer? : Json → Option Int
  | .integer n => some n
  | _ => none

/-- The fields, if the value is an object. -/
def fields? : Json → Option (List (String × Json))
  | .object fs => some fs
  | _ => none

/-- The text of a field. -/
def textAt? (v : Json) (name : String) : Option String := (v.get? name).bind text?

/-- The items of a field; none if it is absent or no array. -/
def itemsAt (v : Json) (name : String) : List Json := ((v.get? name).bind items?).getD []

/-- The texts among the items of a field. -/
def textsAt (v : Json) (name : String) : List String := (v.itemsAt name).filterMap text?

end Json

end Switchboard
