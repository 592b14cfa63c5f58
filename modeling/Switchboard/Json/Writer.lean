/-
# Switchboard.Json.Writer -- JSON values as text

The compact form: no blanks, fields in the order in which the object holds them, and of the
characters only quotes, backslashes and the controls below the space escaped. `diagnostic` is the
other form in which values are shown, one constructor at a time.
-/

import Switchboard.Json.Value
import Switchboard.Text.Quoted

namespace Switchboard.Json

/-- How one character stands inside a text. -/
def escapedChar (c : Char) : String :=
  if c = '"' then "\\\""
  else if c = '\\' then "\\\\"
  else if c = '\x08' then "\\b"
  else if c = '\x0c' then "\\f"
  else if c = '\n' then "\\n"
  else if c = '\r' then "\\r"
  else if c = '\t' then "\\t"
  else if c.toNat < 32 then "\\u" ++ Text.hexPadded 4 c.toNat
  else c.toString

/-- A text between quotes. -/
def renderText (s : String) : String :=
  "\"" ++ String.join (s.toList.map escapedChar) ++ "\""

mutual

/-- The compact text of a value. -/
def render : Json → String
  | .null => "null"
  | .bool b => if b then "true" else "false"
  | .integer n => toString n
  | .float x => x.text
  | .string s => renderText s
  | .array items => "[" ++ String.intercalate "," (renderItems items) ++ "]"
  | .object fields => "\x7b" ++ String.intercalate "," (renderFields fields) ++ "\x7d"

/-- The compact texts of the items of an array. -/
def renderItems : List Json → List String
  | [] => []
  | v :: vs => render v :: renderItems vs

/-- The compact texts of the fields of an object. -/
def renderFields : List (String × Json) → List String
  | [] => []
  | (k, v) :: fs => (renderText k ++ ":" ++ render v) :: renderFields fs

end

mutual

/-- A value with the name of its shape. -/
def diagnostic : Json → String
  | .null => "Null"
  | .bool b => "Bool(" ++ (if b then "true" else "false") ++ ")"
  | .integer n => "Number(" ++ toString n ++ ")"
  | .float x => "Number(" ++ x.text ++ ")"
  | .string s => "String(" ++ Text.quoted s ++ ")"
  | .array items => "Array [" ++ String.intercalate ", " (diagnosticItems items) ++ "]"
  | .object fields =>
    "Object \x7b" ++ String.intercalate ", " (diagnosticFields fields) ++ "\x7d"

/-- The items of an array, each with the name of its shape. -/
def diagnosticItems : List Json → List String
  | [] => []
  | v :: vs => diagnostic v :: diagnosticItems vs

/-- The fields of an object, each with the name of its shape. -/
def diagnosticFields : List (String × Json) → List String
  | [] => []
  | (k, v) :: fs => (Text.quoted k ++ ": " ++ diagnostic v) :: diagnosticFields fs

end

end Switchboard.Json
