/-
# Switchboard.Decimal.Shortest -- the fewest decimal digits that identify a number

A floating-point number stands for every real of a band around it. `Band.shortest` looks for the
coarsest decimal grid with a point in that band and takes the grid point nearest to the number, an
exact tie going to the even digit. All arithmetic is exact, on natural numbers: a grid that meets
the band does so in one of the two grid points next to the number, so no other is looked at.
-/

namespace Switchboard

/-- The number `digits · 10 ^ exponent`. -/
structure Decimal where
  /-- The significant digits, as one natural number. -/
  digits : Nat
  /-- The power of ten of the last digit. -/
  exponent : Int
deriving DecidableEq, Repr

namespace Decimal

/-- The reals between `low / unit` and `high / unit` that read as `value / unit`. -/
structure Band where
  /-- The number itself. -/
  value : Nat
  /-- The lower end. -/
  low : Nat
  /-- The upper end. -/
  high : Nat
  /-- The common denominator. -/
  unit : Nat
  /-- Whether the ends belong to the band. -/
  closed : Bool

/-- Number of decimal digits of a positive number. -/
def width (n : Nat) : Nat := (Nat.toDigits 10 n).length

namespace Band

/-- The band of `m · 2 ^ q`, whose neighbours are one step of `2 ^ q` away; `narrow` says that the
neighbour below is only half a step away. -/
def ofBinary (m : Nat) (q : Int) (narrow : Bool) : Band :=
  let step := Nat.pow 2 q.toNat
  { value := 4 * m * step
    low := (4 * m - if narrow then 1 else 2) * step
    high := (4 * m + 2) * step
    unit := 4 * Nat.pow 2 (-q).toNat
    closed := m % 2 = 0 }

/-- The `n` with `Nat.pow 10 (n - 1) ≤ value / unit < 10 ^ n`. -/
def magnitude (b : Band) : Int :=
  if b.unit ≤ b.value then width (b.value / b.unit)
  else
    let n := width (b.unit / b.value)
    if b.unit ≤ b.value * Nat.pow 10 (n - 1) then 2 - (n : Int) else 1 - (n : Int)

/-- Whether `c · 10 ^ e` lies in the band. -/
def holds (b : Band) (c : Nat) (e : Int) : Bool :=
  let x := c * Nat.pow 10 e.toNat * b.unit
  let low := b.low * Nat.pow 10 (-e).toNat
  let high := b.high * Nat.pow 10 (-e).toNat
  if b.closed then low ≤ x && x ≤ high else low < x && x < high

/-- The multiple of `10 ^ e` that lies in the band and is nearest to the number. -/
def onGrid? (b : Band) (e : Int) : Option Nat :=
  let v := b.value * Nat.pow 10 (-e).toNat
  let step := b.unit * Nat.pow 10 e.toNat
  let c := v / step
  if b.holds c e then
    if b.holds (c + 1) e then
      let below := v - c * step
      let above := (c + 1) * step - v
      some (if below < above then c else if above < below then c + 1 else c + c % 2)
    else some c
  else if b.holds (c + 1) e then some (c + 1) else none

/-- Tries the grids for `digits`, `digits + 1`, … digits, `tries` of them. -/
def search (b : Band) (digits : Nat) : (tries : Nat) → Decimal
  | 0 => ⟨b.value / b.unit, 0⟩
  | tries + 1 =>
    let e := b.magnitude - digits
    match b.onGrid? e with
    | some c => ⟨c, e⟩
    | none => search b (digits + 1) tries

/-- The decimal of fewest digits in the band. Seventeen digits identify every number of
fifty-three binary digits, so the search ends. -/
def shortest (b : Band) : Decimal := b.search 1 17

end Band

/-! ## Writing -/

/-- Which decimals are written without an exponent. -/
structure Layout where
  /-- Least power of ten of the first digit. -/
  least : Int
  /-- Greatest power of ten of the first digit. -/
  greatest : Int

/-- The digits without the zeros at their end. -/
def trimmed (ds : List Char) : List Char :=
  (ds.reverse.dropWhile (· = '0')).reverse

/-- A decimal as text: positional with at least one digit after the point where the layout says
so, else one digit, the others after a point, and a signed exponent. -/
def render (f : Layout) (d : Decimal) : String :=
  let all := Nat.toDigits 10 d.digits
  let ds := trimmed all
  let last : Int := d.exponent + (all.length - ds.length : Nat)
  let first : Int := last + ds.length - 1
  if f.least ≤ first && first ≤ f.greatest then
    if 0 ≤ last then String.ofList (ds ++ List.replicate last.toNat '0') ++ ".0"
    else if 0 ≤ first then
      String.ofList (ds.take (first.toNat + 1)) ++ "." ++ String.ofList (ds.drop (first.toNat + 1))
    else "0." ++ String.ofList (List.replicate (-first - 1).toNat '0' ++ ds)
  else
    let tail := ds.drop 1
    let point := if tail.isEmpty then "" else "." ++ String.ofList tail
    let sign := if first < 0 then "-" else "+"
    String.ofList (ds.take 1) ++ point ++ "e" ++ sign ++ toString first.natAbs

end Decimal

end Switchboard
