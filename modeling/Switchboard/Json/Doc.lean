/-
# Switchboard.Json.Doc -- documents as their source presents them

A `Doc` is a JSON document before anything has been made of it: fields stand in the order of the
source with repeated names kept, and a text that breaks off or goes wrong leaves its fault at the
place where it was met. One decoder can therefore serve both sources. A text is decoded as if it
were read piece by piece, so of two faults the earlier one counts; a value (`Json.toDoc`) is a
document without faults.

A fault has two sides. Whoever needs the faulty part gets its error; whoever passes over the part
only needs to know where it ends.
-/

import Switchboard.Json.Value

namespace Switchboard.Json

/-- What can be wrong with a text that should be a document. -/
inductive Fault where
  /-- The text ends where a value should stand. -/
  | endInValue
  /-- The text ends inside an array. -/
  | endInArray
  /-- The text ends inside an object. -/
  | endInObject
  /-- The text ends inside a quoted text. -/
  | endInText
  /-- No value starts here. -/
  | noValue
  /-- A word other than `null`, `true` and `false`. -/
  | unknownWord
  /-- A name without a colon after it. -/
  | noColon
  /-- Neither comma nor bracket after an item. -/
  | unclosedArray
  /-- Neither comma nor brace after a field. -/
  | unclosedObject
  /-- Digits that make no number. -/
  | malformedNumber
  /-- A number beyond the greatest finite one. -/
  | hugeNumber
  /-- An unknown escape. -/
  | badEscape
  /-- Half of a surrogate pair. -/
  | loneSurrogate
  /-- A high surrogate without an escape after it. -/
  | cutSurrogate
  /-- A control character inside a quoted text. -/
  | controlCharacter
  /-- A field whose name is not quoted. -/
  | unquotedName
  /-- A comma before the closing brace or bracket. -/
  | trailingComma
  /-- Something stands after the document. -/
  | trailingCharacters
  /-- Arrays and objects are nested too deeply. -/
  | tooDeep
deriving DecidableEq, Repr

namespace Fault

/-- The wording of a fault. -/
def message : Fault → String
  | endInValue => "EOF while parsing a value"
  | endInArray => "EOF while parsing a list"
  | endInObject => "EOF while parsing an object"
  | endInText => "EOF while parsing a string"
  | noValue => "expected value"
  | unknownWord => "expected ident"
  | noColon => "expected `:`"
  | unclosedArray => "expected `,` or `]`"
  | unclosedObject => "expected `,` or `\x7d`"
  | malformedNumber => "invalid number"
  | hugeNumber => "number out of range"
  | badEscape => "invalid escape"
  | loneSurrogate => "lone leading surrogate in hex escape"
  | cutSurrogate => "unexpected end of hex escape"
  | controlCharacter => "control character (\\u0000-\\u001F) found while parsing a string"
  | unquotedName => "key must be a string"
  | trailingComma => "trailing comma"
  | trailingCharacters => "trailing characters"
  | tooDeep => "recursion limit exceeded"

/-- Whether the fault is that the text ends too early. -/
def isEnd : Fault → Bool
  | endInValue | endInArray | endInObject | endInText => true
  | _ => false

end Fault

/-- A fault and its place, given by the number of bytes of the text that follow. -/
structure ReadError where
  /-- What is wrong. -/
  fault : Fault
  /-- How much of the text is left. -/
  left : Nat
deriving DecidableEq, Repr

/-- How an array or object of a document ends. -/
inductive Close where
  /-- A value: the number of parts is known beforehand. -/
  | counted
  /-- A text: the closing mark was met. -/
  | closed
  /-- A text that goes wrong after the last part, and whether a comma was met before; `skip` is
  the error for those who pass over the whole. -/
  | cut (comma : Bool) (error : ReadError) (skip : Option ReadError)
deriving DecidableEq, Repr

/-- A document as its source presents it. -/
inductive Doc where
  /-- The value `null`. -/
  | null
  /-- A truth value. -/
  | bool (b : Bool)
  /-- An integer. -/
  | integer (n : Int)
  /-- Any other number. -/
  | float (x : Double)
  /-- A text. -/
  | string (s : String)
  /-- A list. -/
  | array (items : List Doc) (close : Close)
  /-- Named parts. -/
  | object (fields : List (String × Doc)) (close : Close)
  /-- A faulty part, with the error for those who need it and the error, if any, for those who
  pass over it. -/
  | faulty (error : ReadError) (skip : Option ReadError)

mutual

/-- A value as a document. -/
def toDoc : Json → Doc
  | .null => .null
  | .bool b => .bool b
  | .integer n => .integer n
  | .float x => .float x
  | .string s => .string s
  | .array items => .array (toDocItems items) .counted
  | .object fields => .object (toDocFields fields) .counted

/-- Values as documents. -/
def toDocItems : List Json → List Doc
  | [] => []
  | v :: vs => toDoc v :: toDocItems vs

/-- Named values as named documents. -/
def toDocFields : List (String × Json) → List (String × Doc)
  | [] => []
  | (k, v) :: fs => (k, toDoc v) :: toDocFields fs

end

namespace Close

/-- The error of reading up to the end. -/
def readError? : Close → Option ReadError
  | cut _ e _ => some e
  | _ => none

/-- The error of passing over the end. -/
def skipError? : Close → Option ReadError
  | cut _ _ s => s
  | _ => none

end Close

namespace Doc

mutual

/-- The first error of passing over a document. -/
def skipError? : Doc → Option ReadError
  | faulty _ s => s
  | array items close => (skipErrorItems? items).or close.skipError?
  | object fields close => (skipErrorFields? fields).or close.skipError?
  | _ => none

/-- The first error of passing over items. -/
def skipErrorItems? : List Doc → Option ReadError
  | [] => none
  | d :: ds => (skipError? d).or (skipErrorItems? ds)

/-- The first error of passing over fields. -/
def skipErrorFields? : List (String × Doc) → Option ReadError
  | [] => none
  | (_, d) :: fs => (skipError? d).or (skipErrorFields? fs)

end

mutual

/-- The value of a document, or its first error. Of a name that stands twice the last counts. -/
def toJson : Doc → Except ReadError Json
  | null => .ok .null
  | bool b => .ok (.bool b)
  | integer n => .ok (.integer n)
  | float x => .ok (.float x)
  | string s => .ok (.string s)
  | array items close =>
    match toJsonItems items with
    | .error e => .error e
    | .ok vs =>
      match close.readError? with
      | some e => .error e
      | none => .ok (.array vs)
  | object fields close =>
    match toJsonFields fields with
    | .error e => .error e
    | .ok fs =>
      match close.readError? with
      | some e => .error e
      | none => .ok (Json.ofFields fs)
  | faulty e _ => .error e

/-- The values of documents, or their first error. -/
def toJsonItems : List Doc → Except ReadError (List Json)
  | [] => .ok []
  | d :: ds =>
    match toJson d with
    | .error e => .error e
    | .ok v => (toJsonItems ds).map (v :: ·)

/-- The named values of named documents, or their first error. -/
def toJsonFields : List (String × Doc) → Except ReadError (List (String × Json))
  | [] => .ok []
  | (k, d) :: fs =>
    match toJson d with
    | .error e => .error e
    | .ok v => (toJsonFields fs).map ((k, v) :: ·)

end

/-- The first error of reading the whole document. -/
def readError? (d : Doc) : Option ReadError :=
  match d.toJson with
  | .error e => some e
  | .ok _ => none

end Doc

end Switchboard.Json
