/-
# Switchboard.Duration -- lengths of time and how people write them

A duration is written as a sum of amounts with units: `1h 30m`, `1.5s`, `2days`. Reading accepts
the long names of the units as well, blanks between and inside the amounts, and a fraction, which
is cut off at the nanosecond below the hour and at the second from the hour up. Every amount, and
the sum in seconds, has to fit in sixty-four bits.
-/

import Switchboard.Text.Blank

namespace Switchboard

/-- A length of time. -/
structure Duration where
  /-- The length in nanoseconds. -/
  nanos : Nat
deriving DecidableEq, Repr

namespace Duration

/-- Nanoseconds in a second. -/
def perSecond : Nat := 1000000000

/-- Whole seconds. -/
def ofSeconds (n : Nat) : Duration := ⟨n * perSecond⟩

/-! ## Units -/

/-- The units of time. A month is the twelfth part of a year, and a year has 365.25 days. -/
inductive TimeUnit where
  /-- A thousand-millionth of a second. -/
  | nanosecond
  /-- A millionth of a second. -/
  | microsecond
  /-- A thousandth of a second. -/
  | millisecond
  /-- The second. -/
  | second
  /-- Sixty seconds. -/
  | minute
  /-- Sixty minutes. -/
  | hour
  /-- Twenty-four hours. -/
  | day
  /-- Seven days. -/
  | week
  /-- 2630016 seconds. -/
  | month
  /-- 31557600 seconds. -/
  | year
deriving DecidableEq, Repr

namespace TimeUnit

/-- The unit with a given name. -/
def ofName? : String → Option TimeUnit
  | "nanos" | "nsec" | "ns" => some nanosecond
  | "usec" | "us" | "µs" => some microsecond
  | "millis" | "msec" | "ms" => some millisecond
  | "seconds" | "second" | "secs" | "sec" | "s" => some second
  | "minutes" | "minute" | "min" | "mins" | "m" => some minute
  | "hours" | "hour" | "hr" | "hrs" | "h" => some hour
  | "days" | "day" | "d" => some day
  | "weeks" | "week" | "wk" | "wks" | "w" => some week
  | "months" | "month" | "M" => some month
  | "years" | "year" | "yr" | "yrs" | "y" => some year
  | _ => none

/-- Nanoseconds in a unit up to the minute. -/
def nanos? : TimeUnit → Option Nat
  | nanosecond => some 1
  | microsecond => some 1000
  | millisecond => some 1000000
  | second => some perSecond
  | minute => some (60 * perSecond)
  | _ => none

/-- Seconds in a unit from the second up. -/
def seconds? : TimeUnit → Option Nat
  | second => some 1
  | minute => some 60
  | hour => some 3600
  | day => some 86400
  | week => some (7 * 86400)
  | month => some 2630016
  | year => some 31557600
  | _ => none

end TimeUnit

/-! ## Reading -/

/-- The greatest amount. -/
def maxAmount : Nat := UInt64.size - 1

/-- A number, if it is an amount. -/
def checked (n : Nat) : Option Nat := if n ≤ maxAmount then some n else none

/-- Adds whole seconds and nanoseconds. -/
def plus? (d : Duration) (seconds nanos : Nat) : Option Duration := do
  let below ← checked (d.nanos % perSecond + nanos)
  let above ← checked (d.nanos / perSecond + seconds + below / perSecond)
  some ⟨above * perSecond + below % perSecond⟩

/-- Adds `n` whole units. -/
def plusWhole? (d : Duration) (n : Nat) (u : TimeUnit) : Option Duration := do
  match u.seconds? with
  | some k => d.plus? (← checked (n * k)) 0
  | none => d.plus? 0 (← checked (n * u.nanos?.getD 1))

/-- Adds the fraction `n / m` of a unit. -/
def plusFraction? (d : Duration) (n m : Nat) (u : TimeUnit) : Option Duration := do
  match u.nanos? with
  | some k => d.plus? 0 ((← checked (n * k)) / m)
  | none => d.plus? ((← checked (n * u.seconds?.getD 1)) / m) 0

/-- The value of a decimal digit. -/
def digit? (c : Char) : Option Nat :=
  if c.isDigit then some (c.toNat - '0'.toNat) else none

/-- Whether a character can stand in the name of a unit. -/
def isUnitChar (c : Char) : Bool := c.isAlpha || c = 'µ'

/-- Reads the digits after a point: numerator, denominator and what follows. Blanks do not
matter, and there is at least one digit. -/
def readFraction (n m : Nat) : List Char → Option ((Nat × Nat) × List Char)
  | [] => if m = 1 then none else some ((n, m), [])
  | c :: cs =>
    match digit? c with
    | some k => do
      let m ← checked (m * 10)
      let n ← checked (n * 10 + k)
      readFraction n m cs
    | none =>
      if Text.isBlank c then readFraction n m cs
      else if isUnitChar c then if m = 1 then none else some ((n, m), c :: cs)
      else none

/-- Reads the rest of an amount: whole part, fraction and what follows. Blanks do not matter. -/
def readAmount (n : Nat) : List Char → Option ((Nat × Option (Nat × Nat)) × List Char)
  | [] => some ((n, none), [])
  | c :: cs =>
    match digit? c with
    | some k => do readAmount (← checked (n * 10 + k)) cs
    | none =>
      if Text.isBlank c then readAmount n cs
      else if isUnitChar c then some ((n, none), c :: cs)
      else if c = '.' then (readFraction 0 1 cs).map fun (f, cs) => ((n, some f), cs)
      else none

/-- Adds the amounts of a text, each with its unit. The fuel is one more than the number of
characters, and every amount takes at least one. -/
def readSum (d : Duration) : (fuel : Nat) → List Char → Option Duration
  | 0, _ => none
  | fuel + 1, cs => do
    match cs.dropWhile Text.isBlank with
    | [] => some d
    | c :: cs =>
      let k ← digit? c
      let ((n, fraction), cs) ← readAmount k cs
      let u ← TimeUnit.ofName? (String.ofList (cs.takeWhile isUnitChar))
      let d ← d.plusWhole? n u
      let d ← match fraction with
        | some (n, m) => d.plusFraction? n m u
        | none => some d
      readSum d fuel (cs.dropWhile isUnitChar)

/-- The duration that a text describes. A text without any amount describes none; `0` needs no
unit. -/
def ofText? (s : String) : Option Duration :=
  if s = "0" then some ⟨0⟩
  else if s.toList.all Text.isBlank then none
  else readSum ⟨0⟩ (s.length + 1) s.toList

/-! ## Writing -/

/-- An amount of a unit with a plural, unless it is zero. -/
def plural (name : String) (n : Nat) : List String :=
  if n = 0 then [] else [toString n ++ name ++ (if 1 < n then "s" else "")]

/-- An amount of a unit, unless it is zero. -/
def amount (name : String) (n : Nat) : List String :=
  if n = 0 then [] else [toString n ++ name]

/-- A duration as text, from the largest unit to the smallest. -/
def text (d : Duration) : String :=
  if d.nanos = 0 then "0s"
  else
    let secs := d.nanos / perSecond
    let nanos := d.nanos % perSecond
    let inYear := secs % 31557600
    let inMonth := inYear % 2630016
    let inDay := inMonth % 86400
    String.intercalate " " <|
      plural "year" (secs / 31557600) ++ plural "month" (inYear / 2630016) ++
      plural "day" (inMonth / 86400) ++ amount "h" (inDay / 3600) ++
      amount "m" (inDay % 3600 / 60) ++ amount "s" (inDay % 60) ++
      amount "ms" (nanos / 1000000) ++ amount "us" (nanos / 1000 % 1000) ++
      amount "ns" (nanos % 1000)

end Duration

end Switchboard
