/-
# Switchboard.Rpc.Id -- what ties an answer to its request

An id is null, a 64-bit integer or a text. Ids are ordered: null first, then the integers by
value, then the texts by code points.
-/

import Switchboard.Json.Decode

namespace Switchboard

/-- The id of a request. -/
inductive Id where
  /-- The id `null`, which is a present id. -/
  | null
  /-- An integer. -/
  | number (n : Int64)
  /-- A text. -/
  | text (s : String)
deriving DecidableEq

namespace Id

instance : Inhabited Id := ⟨.null⟩

/-- How an id is shown. -/
def display : Id → String
  | null => "null"
  | number n => toString n.toInt
  | text s => s

/-- The JSON value of an id. -/
def toJson : Id → Json
  | null => .null
  | number n => .integer n.toInt
  | text s => .string s

/-- The integer id `n`, if it fits. -/
def ofInt? (n : Int) : Option Id :=
  if Int64.minValue.toInt ≤ n ∧ n ≤ Int64.maxValue.toInt then some (number (Int64.ofInt n))
  else none

/-- The id that a JSON value stands for. -/
def ofJson? : Json → Option Id
  | .null => some null
  | .integer n => ofInt? n
  | .string s => some (text s)
  | _ => none

/-- Decodes an id. -/
def decode (d : Json.Doc) : Except Json.DecodeError Id := do
  d.buffer
  let id? : Option Id :=
    match d with
    | .null => some null
    | .integer n => ofInt? n
    | .string s => some (text s)
    | _ => none
  match id? with
  | some id => .ok id
  | none => .error (.noAlternative "Id")

/-- Whether an id comes before another or equals it. -/
def le : Id → Id → Bool
  | null, _ => true
  | number _, null => false
  | number m, number n => m ≤ n
  | number _, text _ => true
  | text s, text t => s ≤ t
  | text _, _ => false

theorem ofInt?_toInt (n : Int64) : ofInt? n.toInt = some (number n) := by
  simp only [ofInt?]
  rw [if_pos ⟨n.minValue_le_toInt, n.toInt_le⟩, Int64.ofInt_toInt]

/-- An id is read back from its JSON value. -/
@[simp] theorem ofJson?_toJson (id : Id) : ofJson? id.toJson = some id := by
  cases id with
  | null => rfl
  | number n => exact ofInt?_toInt n
  | text s => rfl

end Id

end Switchboard
