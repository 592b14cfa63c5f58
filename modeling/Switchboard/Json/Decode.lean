/-
# Switchboard.Json.Decode -- typed values from documents

Decoders are functions from documents to `Except DecodeError`. A record is decoded field by field
in the order of the source, so the first bad field in that order is the one reported, and what is
missing is reported after all that is there was read. Records may also be given as the array of
their fields.
-/

import Switchboard.Json.Reader
import Switchboard.Json.Writer

namespace Switchboard.Json

/-! ## Errors -/

/-- What was found where something else was wanted. -/
inductive Found where
  /-- The value `null`. -/
  | null
  /-- A truth value. -/
  | bool (b : Bool)
  /-- An integer. -/
  | integer (n : Int)
  /-- Any other number. -/
  | float (x : Double)
  /-- A text. -/
  | string (s : String)
  /-- An array. -/
  | array
  /-- An object. -/
  | object
deriving DecidableEq, Repr

/-- Why a document is not what was asked for. -/
inductive DecodeError where
  /-- Something of another shape was found. -/
  | wrongShape (found : Found) (wanted : String)
  /-- Something of the right shape was found, but not one of the values wanted. -/
  | wrongValue (found : Found) (wanted : String)
  /-- An array of the wrong length. -/
  | wrongLength (length : Nat) (wanted : String)
  /-- A field is missing. -/
  | missingField (name : String)
  /-- A field is given twice. -/
  | repeatedField (name : String)
  /-- A field that the record does not have. -/
  | unknownField (name : String) (known : List String)
  /-- A word that is none of those wanted. -/
  | unknownWord (word : String) (known : List String)
  /-- None of the shapes that a type may have. -/
  | noAlternative (type : String)
  /-- The text of the document is faulty. -/
  | unreadable (error : ReadError)
deriving DecidableEq, Repr

namespace Found

/-- How a found value is described. -/
def describe : Found → String
  | null => "null"
  | bool b => "boolean `" ++ (if b then "true" else "false") ++ "`"
  | integer n => "integer `" ++ toString n ++ "`"
  | float x => "floating point `" ++ x.text ++ "`"
  | string s => "string " ++ Text.quoted s
  | array => "sequence"
  | object => "map"

end Found

namespace DecodeError

/-- Names between backticks, separated by commas. -/
def choices (names : List String) : String :=
  String.intercalate ", " (names.map fun n => "`" ++ n ++ "`")

/-- The wording of an error. -/
def message : DecodeError → String
  | wrongShape found wanted => "invalid type: " ++ found.describe ++ ", expected " ++ wanted
  | wrongValue found wanted => "invalid value: " ++ found.describe ++ ", expected " ++ wanted
  | wrongLength n wanted => "invalid length " ++ toString n ++ ", expected " ++ wanted
  | missingField name => "missing field `" ++ name ++ "`"
  | repeatedField name => "duplicate field `" ++ name ++ "`"
  | unknownField name known =>
    "unknown field `" ++ name ++ "`, expected one of " ++ choices known
  | unknownWord word known =>
    "unknown variant `" ++ word ++ "`, expected one of " ++ choices known
  | noAlternative type => "data did not match any variant of untagged enum " ++ type
  | unreadable e => e.fault.message

end DecodeError

/-! ## Simple values -/

namespace Doc

/-- A text, an integer and so on, described as something unwanted. -/
def mismatch (d : Doc) (wanted : String) : DecodeError :=
  match d with
  | null => .wrongShape .null wanted
  | bool b => .wrongShape (.bool b) wanted
  | integer n => .wrongShape (.integer n) wanted
  | float x => .wrongShape (.float x) wanted
  | string s => .wrongShape (.string s) wanted
  | array _ _ => .wrongShape .array wanted
  | object _ _ => .wrongShape .object wanted
  | faulty e _ => .unreadable e

/-- Any value. -/
def asJson (d : Doc) : Except DecodeError Json :=
  match d.toJson with
  | .ok v => .ok v
  | .error e => .error (.unreadable e)

/-- A text. -/
def asText (d : Doc) (wanted : String) : Except DecodeError String :=
  match d with
  | string s => .ok s
  | d => .error (d.mismatch wanted)

/-- A truth value. -/
def asBool (d : Doc) : Except DecodeError Bool :=
  match d with
  | bool b => .ok b
  | d => .error (d.mismatch "a boolean")

/-- An integer from `low` up to `high`. -/
def asInteger (d : Doc) (low high : Int) (wanted : String) : Except DecodeError Int :=
  match d with
  | integer n =>
    if low ≤ n && n ≤ high then .ok n else .error (.wrongValue (.integer n) wanted)
  | d => .error (d.mismatch wanted)

/-- A value that may be `null`. -/
def asOption {α : Type} (decode : Doc → Except DecodeError α) (d : Doc) :
    Except DecodeError (Option α) :=
  match d with
  | null => .ok none
  | d => (decode d).map some

/-- Passes over a part that is not needed. -/
def ignore (d : Doc) : Except DecodeError Unit :=
  match d.skipError? with
  | some e => .error (.unreadable e)
  | none => .ok ()

/-- Takes in a whole part before any of it is looked at. -/
def buffer (d : Doc) : Except DecodeError Unit :=
  match d.readError? with
  | some e => .error (.unreadable e)
  | none => .ok ()

end Doc

/-! ## Records -/

namespace Close

/-- The end of an object. -/
def endFields (close : Close) : Except DecodeError Unit :=
  match close.readError? with
  | some e => .error (.unreadable e)
  | none => .ok ()

/-- The end of an array of which `items` are left after all that was wanted was read. -/
def endItems (close : Close) (total : Nat) (items : List Doc) : Except DecodeError Unit :=
  match items, close with
  | [], .cut false e _ => .error (.unreadable e)
  | [], .cut true e _ => .error (.unreadable ⟨.trailingCharacters, e.left⟩)
  | [], _ => .ok ()
  | _ :: _, .counted => .error (.wrongLength total "fewer elements in array")
  | _ :: _, .closed => .error (.unreadable ⟨.trailingCharacters, 0⟩)
  | _ :: _, .cut _ e _ => .error (.unreadable ⟨.trailingCharacters, e.left⟩)

end Close

/-- The fields of a record that are read so far: each is absent or has a value. -/
abbrev Slot (α : Type) := Option α

/-- Reads a field into its slot, which must still be empty. -/
def Slot.fill {α : Type} (slot : Slot α) (name : String) (decode : Doc → Except DecodeError α)
    (d : Doc) : Except DecodeError (Slot α) :=
  match slot with
  | some _ => .error (.repeatedField name)
  | none => (decode d).map some

/-- The value of a field that must be there. -/
def Slot.required {α : Type} (slot : Slot α) (name : String) : Except DecodeError α :=
  match slot with
  | some v => .ok v
  | none => .error (.missingField name)

/-- Goes through the fields of an object in their order. -/
def foldFields {σ : Type} (step : σ → String → Doc → Except DecodeError σ) :
    σ → List (String × Doc) → Except DecodeError σ
  | s, [] => .ok s
  | s, (k, d) :: fs =>
    match step s k d with
    | .error e => .error e
    | .ok s => foldFields step s fs

/-- Reads the next item of an array that holds the fields of a record; none if there is no item
left. -/
def nextItem {α : Type} (decode : Doc → Except DecodeError α) (close : Close) :
    List Doc → Except DecodeError (Option α × List Doc)
  | d :: ds => (decode d).map fun v => (some v, ds)
  | [] =>
    match close.readError? with
    | some e => .error (.unreadable e)
    | none => .ok (none, [])

/-- The next item of an array that holds the fields of a record: the one with the given number,
which must be there. -/
def needItem {α : Type} (decode : Doc → Except DecodeError α) (close : Close) (number : Nat)
    (wanted : String) (items : List Doc) : Except DecodeError (α × List Doc) := do
  match ← nextItem decode close items with
  | (some v, rest) => .ok (v, rest)
  | (none, _) => .error (.wrongLength number wanted)

end Switchboard.Json
