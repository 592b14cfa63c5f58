/-
# Switchboard.Json.Located -- integers from texts, with the place of an error

An error names the line and column up to which the text had been read when it was found: a wrong
number or text is read to its end, an array or object is refused at its first character.
-/

import Switchboard.Json.Decode

namespace Switchboard.Json

/-- An error and its place in a text, in words; `left` bytes follow the place. -/
def located (text message : String) (left : Nat) : String :=
  let (line, column) := position text left
  message ++ " at line " ++ toString line ++ " column " ++ toString column

/-- An integer that fits into 64 bits. -/
def Doc.asInt64 (d : Doc) : Except DecodeError Int64 :=
  (d.asInteger Int64.minValue.toInt Int64.maxValue.toInt "i64").map Int64.ofInt

/-- Whether a document is refused before it is read. -/
def Doc.isNested : Doc → Bool
  | array .. | object .. => true
  | _ => false

/-- The 64-bit integer that a text holds, or what is wrong and where. -/
def int64OfText (text : String) : Except String Int64 :=
  let s := scan text maxDepth
  match s.doc.asInt64 with
  | .error (.unreadable e) => .error (located text e.fault.message e.left)
  | .error e => .error (located text e.message (if s.doc.isNested then s.start else s.stop))
  | .ok n =>
    match s.trailing with
    | some e => .error (located text e.fault.message e.left)
    | none => .ok n

end Switchboard.Json
