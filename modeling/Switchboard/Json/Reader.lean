/-
# Switchboard.Json.Reader -- from text to documents

The reader goes through a text once and keeps going as long as it knows where the next part
starts, so that a fault stays where it is and hides nothing that comes before it. `Json.ofText?`
asks for the whole value; `scan` is for decoders, which look at the parts in order.

Every function answers with what is left of the text. Fuel is the length of the text: each level
of nesting and each part takes at least one character.
-/

import Switchboard.Json.Doc

namespace Switchboard.Json.Reader

/-- Length of the rest of a text in bytes. -/
def bytes (cs : List Char) : Nat := cs.foldl (fun n c => n + c.utf8Size) 0

/-- A fault at the character that comes next. -/
def atNext (f : Fault) (cs : List Char) : ReadError := ⟨f, bytes cs - 1⟩

/-- A fault just before what is left. -/
def before (f : Fault) (cs : List Char) : ReadError := ⟨f, bytes cs⟩

/-- The rest of the text after blanks. -/
def skipBlanks (cs : List Char) : List Char :=
  cs.dropWhile fun c => c = ' ' || c = '\n' || c = '\t' || c = '\r'

/-! ## Words -/

/-- Reads the rest of a word. -/
def readWord : (word cs : List Char) → Except ReadError (List Char)
  | [], cs => .ok cs
  | _ :: _, [] => .error ⟨.endInValue, 0⟩
  | w :: ws, c :: cs => if c = w then readWord ws cs else .error (before .unknownWord cs)

/-! ## Numbers -/

/-- What became of a part of the text. -/
inductive Lexeme (α : Type) where
  /-- The part was read. -/
  | good (value : α) (rest : List Char)
  /-- The part has an end but no value. -/
  | flawed (error : ReadError) (rest : List Char)
  /-- The part has no end; the second error is for those who pass over it. -/
  | lost (error skip : ReadError)

/-- Appends digits to a number as long as it fits in sixty-four bits, and counts the others. -/
def appendDigits (n : Nat) : (ds : List Char) → Nat × Nat
  | [] => (n, 0)
  | d :: ds =>
    let m := 10 * n + (d.toNat - '0'.toNat)
    if m < UInt64.size then appendDigits m ds else (n, ds.length + 1)

/-- Appends digits to an exponent as long as it fits in thirty-two bits; the digits that are left
when it does not. -/
def appendExponent (n : Nat) : (ds : List Char) → Except (List Char) Nat
  | [] => .ok n
  | d :: ds =>
    let m := 10 * n + (d.toNat - '0'.toNat)
    if m ≤ Int32.maxValue.toNatClampNeg then appendExponent m ds else .error ds

/-- The number `± n · 10 ^ e`, if it is finite. -/
def finish (negative : Bool) (n : Nat) (e : Int) (rest : List Char) : Lexeme Json :=
  match Double.ofScientific? negative n e with
  | some x => .good (.float x) rest
  | none => .flawed (before .hugeNumber rest) rest

/-- Reads the exponent of the number `± n · 10 ^ e`, after its letter. -/
def readExponent (negative : Bool) (n : Nat) (e : Int) (cs : List Char) : Lexeme Json :=
  let (minus, cs) : Bool × List Char :=
    match cs with
    | '+' :: cs => (false, cs)
    | '-' :: cs => (true, cs)
    | cs => (false, cs)
  match cs with
  | [] => .lost ⟨.endInValue, 0⟩ ⟨.malformedNumber, 0⟩
  | c :: rest =>
    if c.isDigit then
      let ds := cs.takeWhile Char.isDigit
      let after := cs.dropWhile Char.isDigit
      match appendExponent 0 ds with
      | .ok k => finish negative n (if minus then e - k else e + k) after
      | .error left =>
        if n ≠ 0 && !minus then .flawed (before .hugeNumber (left ++ after)) after
        else .good (.float (Double.ofFloat (if negative then -0.0 else 0.0))) after
    else .lost (before .malformedNumber rest) (before .malformedNumber rest)

/-- Reads the digits after the point of the number `± n · 10 ^ e`, and its exponent. -/
def readFraction (negative : Bool) (n : Nat) (e : Int) (cs : List Char) : Lexeme Json :=
  match cs with
  | [] => .lost ⟨.endInValue, 0⟩ ⟨.malformedNumber, 0⟩
  | c :: _ =>
    if c.isDigit then
      let ds := cs.takeWhile Char.isDigit
      let (m, dropped) := appendDigits n ds
      let e := e - (ds.length - dropped : Nat)
      match cs.dropWhile Char.isDigit with
      | 'e' :: cs | 'E' :: cs => readExponent negative m e cs
      | cs => finish negative m e cs
    else .lost (atNext .malformedNumber cs) (atNext .malformedNumber cs)

/-- Reads what follows the digits of the integer part. -/
def readTail (negative : Bool) (n dropped : Nat) (cs : List Char) : Lexeme Json :=
  match cs with
  | '.' :: cs => readFraction negative n dropped cs
  | 'e' :: cs | 'E' :: cs => readExponent negative n dropped cs
  | cs =>
    if dropped ≠ 0 then finish negative n dropped cs
    else if !negative then .good (.integer n) cs
    else if n = 0 || Nat.pow 2 63 < n then finish true n 0 cs
    else .good (.integer (-n)) cs

/-- Reads a number, after its sign. -/
def readNumber (negative : Bool) (cs : List Char) : Lexeme Json :=
  match cs with
  | [] => .lost ⟨.endInValue, 0⟩ ⟨.malformedNumber, 0⟩
  | c :: rest =>
    if c = '0' then
      match rest with
      | d :: _ =>
        if d.isDigit then .lost (atNext .malformedNumber rest) (atNext .malformedNumber rest)
        else readTail negative 0 0 rest
      | [] => readTail negative 0 0 rest
    else if c.isDigit then
      let (n, dropped) := appendDigits 0 (cs.takeWhile Char.isDigit)
      readTail negative n dropped (cs.dropWhile Char.isDigit)
    else .lost (before .malformedNumber rest) (before .malformedNumber rest)

/-! ## Quoted texts -/

/-- The value of a hexadecimal digit. -/
def hexDigit? (c : Char) : Option Nat :=
  if c.isDigit then some (c.toNat - '0'.toNat)
  else if 'a' ≤ c && c ≤ 'f' then some (c.toNat - 'a'.toNat + 10)
  else if 'A' ≤ c && c ≤ 'F' then some (c.toNat - 'A'.toNat + 10)
  else none

/-- Reads four hexadecimal digits. -/
def readHex (cs : List Char) : Except ReadError (Nat × List Char) :=
  match cs with
  | a :: b :: c :: d :: rest =>
    match hexDigit? a, hexDigit? b, hexDigit? c, hexDigit? d with
    | some a, some b, some c, some d => .ok (((a * 16 + b) * 16 + c) * 16 + d, rest)
    | _, _, _, _ => .error ⟨.badEscape, bytes cs - 4⟩
  | _ => .error (if bytes cs < 4 then ⟨.endInText, 0⟩ else ⟨.badEscape, bytes cs - 4⟩)

/-- The character of an escape of one letter. -/
def escaped? : Char → Option Char
  | '"' => some '"'
  | '\\' => some '\\'
  | '/' => some '/'
  | 'b' => some '\x08'
  | 'f' => some '\x0c'
  | 'n' => some '\n'
  | 'r' => some '\r'
  | 't' => some '\t'
  | _ => none

/-- Reads the second half of a surrogate pair. -/
def readPair (high : Nat) (cs : List Char) : Except ReadError (Char × List Char) :=
  match cs with
  | [] => .error ⟨.endInText, 0⟩
  | '\\' :: [] => .error ⟨.endInText, 0⟩
  | '\\' :: 'u' :: cs =>
    match readHex cs with
    | .error e => .error e
    | .ok (low, rest) =>
      if 0xDC00 ≤ low && low ≤ 0xDFFF then
        .ok (Char.ofNat (0x10000 + (high - 0xD800) * 0x400 + (low - 0xDC00)), rest)
      else .error (before .loneSurrogate rest)
  | '\\' :: cs => .error (atNext .cutSurrogate cs)
  | cs => .error (atNext .cutSurrogate cs)

/-- Reads an escape, after its backslash. -/
def readEscape (cs : List Char) : Except ReadError (Char × List Char) :=
  match cs with
  | [] => .error ⟨.endInText, 0⟩
  | 'u' :: cs =>
    match readHex cs with
    | .error e => .error e
    | .ok (n, rest) =>
      if 0xDC00 ≤ n && n ≤ 0xDFFF then .error (before .loneSurrogate rest)
      else if 0xD800 ≤ n && n ≤ 0xDBFF then readPair n rest
      else .ok (Char.ofNat n, rest)
  | c :: rest =>
    match escaped? c with
    | some x => .ok (x, rest)
    | none => .error (before .badEscape rest)

/-- Reads a text up to its closing quote. -/
def readText (acc : List Char) : (fuel : Nat) → List Char → Except ReadError (String × List Char)
  | 0, _ => .error ⟨.endInText, 0⟩
  | fuel + 1, cs =>
    match cs with
    | [] => .error ⟨.endInText, 0⟩
    | '"' :: rest => .ok (String.ofList acc.reverse, rest)
    | '\\' :: rest =>
      match readEscape rest with
      | .error e => .error e
      | .ok (c, rest) => readText (c :: acc) fuel rest
    | c :: rest =>
      if c.toNat < 32 then .error (before .controlCharacter rest)
      else readText (c :: acc) fuel rest

/-- Passes over a text up to its closing quote; surrogates need not be paired. -/
def skipText : (fuel : Nat) → List Char → Except ReadError (List Char)
  | 0, _ => .error ⟨.endInText, 0⟩
  | fuel + 1, cs =>
    match cs with
    | [] => .error ⟨.endInText, 0⟩
    | '"' :: rest => .ok rest
    | '\\' :: 'u' :: rest =>
      match readHex rest with
      | .error e => .error e
      | .ok (_, rest) => skipText fuel rest
    | '\\' :: c :: rest =>
      match escaped? c with
      | some _ => skipText fuel rest
      | none => .error (before .badEscape rest)
    | c :: rest =>
      if c.toNat < 32 then .error (before .controlCharacter cs) else skipText fuel rest

/-- Reads a text, after its opening quote. -/
def readQuoted (cs : List Char) : Lexeme String :=
  match readText [] (cs.length + 1) cs with
  | .ok (s, rest) => .good s rest
  | .error e =>
    match skipText (cs.length + 1) cs with
    | .ok rest => .flawed e rest
    | .error skip => .lost e skip

/-! ## Documents -/

/-- A faulty document of which nothing is left to read. -/
def lost (e : ReadError) : Doc × Option (List Char) := (.faulty e (some e), none)

/-- The parts of an array or object that ends with a fault. -/
def cut {α : Type} (comma : Bool) (e : ReadError) : (List α × Close) × Option (List Char) :=
  (([], .cut comma e (some e)), none)

/-- A word that stands for a document. -/
def ofWord (d : Doc) (word cs : List Char) : Doc × Option (List Char) :=
  match readWord word cs with
  | .ok rest => (d, some rest)
  | .error e => lost e

/-- A lexeme as a document. -/
def ofLexeme {α : Type} (f : α → Doc) : Lexeme α → Doc × Option (List Char)
  | .good v rest => (f v, some rest)
  | .flawed e rest => (.faulty e none, some rest)
  | .lost e skip => (.faulty e (some skip), none)

/-- The document of a number. -/
def ofNumber : Json → Doc
  | .integer n => .integer n
  | .float x => .float x
  | _ => .null

/-- Keeps a document unless it is nested too deeply. -/
def guardDepth (room : Nat) (start : List Char) (r : Doc × Option (List Char)) :
    Doc × Option (List Char) :=
  if room = 0 then (.faulty (atNext .tooDeep start) r.1.skipError?, r.2) else r

mutual

/-- Reads a document; `room` is the number of levels that may still be opened. Besides the
document comes the rest of the text, if the document has an end. -/
def readDoc : (fuel room : Nat) → List Char → Doc × Option (List Char)
  | 0, _, _ => lost ⟨.endInValue, 0⟩
  | fuel + 1, room, cs =>
    let cs := skipBlanks cs
    match cs with
    | [] => lost ⟨.endInValue, 0⟩
    | 'n' :: rest => ofWord .null ['u', 'l', 'l'] rest
    | 't' :: rest => ofWord (.bool true) ['r', 'u', 'e'] rest
    | 'f' :: rest => ofWord (.bool false) ['a', 'l', 's', 'e'] rest
    | '"' :: rest => ofLexeme .string (readQuoted rest)
    | '-' :: rest => ofLexeme ofNumber (readNumber true rest)
    | '[' :: rest =>
      let ((items, close), rest) := readItems fuel (room - 1) true rest
      guardDepth room cs (.array items close, rest)
    | '\x7b' :: rest =>
      let ((fields, close), rest) := readFields fuel (room - 1) true rest
      guardDepth room cs (.object fields close, rest)
    | c :: _ =>
      if c.isDigit then ofLexeme ofNumber (readNumber false cs) else lost (atNext .noValue cs)

/-- Reads the items of an array up to its closing bracket. -/
def readItems : (fuel room : Nat) → (first : Bool) → List Char →
    (List Doc × Close) × Option (List Char)
  | 0, _, _, _ => cut false ⟨.endInArray, 0⟩
  | fuel + 1, room, first, cs =>
    let item (cs : List Char) : (List Doc × Close) × Option (List Char) :=
      match readDoc fuel room cs with
      | (d, none) => (([d], .closed), none)
      | (d, some rest) =>
        let ((ds, close), rest) := readItems fuel room false rest
        ((d :: ds, close), rest)
    let cs := skipBlanks cs
    match cs with
    | [] => cut false ⟨.endInArray, 0⟩
    | ']' :: rest => (([], .closed), some rest)
    | c :: rest =>
      if first then item cs
      else if c = ',' then
        let rest := skipBlanks rest
        match rest with
        | [] => cut true ⟨.endInValue, 0⟩
        | ']' :: _ => cut true (atNext .trailingComma rest)
        | rest => item rest
      else cut false (atNext .unclosedArray cs)

/-- Reads the fields of an object up to its closing brace. -/
def readFields : (fuel room : Nat) → (first : Bool) → List Char →
    (List (String × Doc) × Close) × Option (List Char)
  | 0, _, _, _ => cut false ⟨.endInObject, 0⟩
  | fuel + 1, room, first, cs =>
    let value (cs : List Char) : Doc × Option (List Char) :=
      let cs := skipBlanks cs
      match cs with
      | [] => lost ⟨.endInObject, 0⟩
      | ':' :: rest => readDoc fuel room rest
      | cs => lost (atNext .noColon cs)
    let field (cs : List Char) : (List (String × Doc) × Close) × Option (List Char) :=
      match cs with
      | '"' :: rest =>
        match readQuoted rest with
        | .good k rest =>
          match value rest with
          | (d, none) => (([(k, d)], .closed), none)
          | (d, some rest) =>
            let ((fs, close), rest) := readFields fuel room false rest
            (((k, d) :: fs, close), rest)
        | .flawed e rest =>
          match value rest with
          | (d, none) => (([], .cut true e d.skipError?), none)
          | (_, some rest) =>
            let ((fs, close), rest) := readFields fuel room false rest
            (([], .cut true e ((Doc.skipErrorFields? fs).or close.skipError?)), rest)
        | .lost e skip => (([], .cut true e (some skip)), none)
      | [] => cut true ⟨.endInValue, 0⟩
      | '\x7d' :: _ => cut true (atNext .trailingComma cs)
      | cs => cut true (atNext .unquotedName cs)
    let cs := skipBlanks cs
    match cs with
    | [] => cut false ⟨.endInObject, 0⟩
    | '\x7d' :: rest => (([], .closed), some rest)
    | c :: rest =>
      if first then field cs
      else if c = ',' then field (skipBlanks rest)
      else cut false (atNext .unclosedObject cs)

end

end Reader

/-! ## Whole texts -/

/-- A text as a document. -/
structure Scanned where
  /-- The document. -/
  doc : Doc
  /-- What is wrong after the document. -/
  trailing : Option ReadError
  /-- How many bytes of the text are left where the document starts. -/
  start : Nat
  /-- How many bytes of the text are left where the document ends. -/
  stop : Nat

/-- How many levels of arrays and objects a text may open. -/
def maxDepth : Nat := 127

/-- Goes through a text in which up to `room` levels are opened. -/
def scan (text : String) (room : Nat) : Scanned :=
  let cs := Reader.skipBlanks text.toList
  let (doc, rest) := Reader.readDoc (2 * cs.length + 2) room cs
  let rest := rest.getD []
  let left := Reader.skipBlanks rest
  { doc
    trailing := if left.isEmpty then none else some (Reader.atNext .trailingCharacters left)
    start := Reader.bytes cs
    stop := Reader.bytes rest }

/-- The value of a text. -/
def ofText? (text : String) (room : Nat) : Except ReadError Json :=
  let s := scan text room
  match s.doc.toJson with
  | .error e => .error e
  | .ok v =>
    match s.trailing with
    | some e => .error e
    | none => .ok v

/-- Line and column of the place with `left` bytes of a text after it. Lines count from one, and
the column is the number of bytes since the last line end. -/
def position (text : String) (left : Nat) : Nat × Nat :=
  let target := text.utf8ByteSize - left
  let step (acc : Nat × Nat × Nat) (c : Char) : Nat × Nat × Nat :=
    let (offset, line, start) := acc
    if offset < target && c = '\n' then (offset + 1, line + 1, offset + 1)
    else (offset + c.utf8Size, line, start)
  let (_, line, start) := text.toList.foldl step (0, 1, 0)
  (line, target - start)

end Switchboard.Json
