/-
# Switchboard.Json.Double -- the numbers of JSON that are not integers

A `Double` is a binary64 number known by its bits, so that equality is decidable and `-0.0` is a
value of its own. Texts are made from the exact value of the bits; the number of a decimal text is
its leading digits as a 64-bit integer, scaled by one power of ten in floating point.
-/

import Switchboard.Decimal.Shortest

namespace Switchboard

/-- A binary64 floating-point number. -/
structure Double where
  /-- Sign, eleven bits of exponent, fifty-two bits of fraction. -/
  bits : UInt64
deriving DecidableEq, Repr

namespace Double

/-- The number of a machine float. -/
def ofFloat (x : Float) : Double := ⟨x.toBits⟩

/-- The machine float of a number. -/
def toFloat (x : Double) : Float := Float.ofBits x.bits

/-- Whether the sign is minus. -/
def isNegative (x : Double) : Bool := Nat.pow 2 63 ≤ x.bits.toNat

/-- The exponent bits. -/
def biased (x : Double) : Nat := x.bits.toNat / Nat.pow 2 52 % Nat.pow 2 11

/-- The fraction bits. -/
def fraction (x : Double) : Nat := x.bits.toNat % Nat.pow 2 52

/-- The `m` of the magnitude `m · 2 ^ q`. -/
def significand (x : Double) : Nat :=
  if x.biased = 0 then x.fraction else Nat.pow 2 52 + x.fraction

/-- The `q` of the magnitude `m · 2 ^ q`. -/
def scale (x : Double) : Int :=
  (max x.biased 1 : Nat) - 1075

/-- The decimal of fewest digits that reads as the magnitude. -/
def shortest (x : Double) : Decimal :=
  (Decimal.Band.ofBinary x.significand x.scale (x.fraction = 0 && 1 < x.biased)).shortest

/-- Magnitudes from a hundred-thousandth up to below ten to the sixteenth are positional. -/
def layout : Decimal.Layout := ⟨-5, 15⟩

/-- The text of a finite number. -/
def text (x : Double) : String :=
  let sign := if x.isNegative then "-" else ""
  if x.significand = 0 then sign ++ "0.0" else sign ++ x.shortest.render layout

/-- `10 ^ n` in floating point. -/
def tenTo (n : Nat) : Float := Float.ofScientific 1 false n

/-- Divides by ten to the 308th until `n` is below 309, then by `10 ^ n`. -/
def shrink (x : Float) (n : Nat) : Float :=
  if n ≤ 308 then x / tenTo n
  else if x == 0 then x
  else shrink (x / tenTo 308) (n - 308)
termination_by n
decreasing_by omega

/-- The number `± digits · 10 ^ exponent`, where digits fit in sixty-four bits: one conversion and
one multiplication or division in floating point. No number when the result is too large. -/
def ofScientific? (negative : Bool) (digits : Nat) (exponent : Int) : Option Double :=
  let x := digits.toUInt64.toFloat
  let scaled : Option Float :=
    if exponent < 0 then some (shrink x exponent.natAbs)
    else if exponent ≤ 308 then
      let y := x * tenTo exponent.toNat
      if y.isInf then none else some y
    else if x == 0 then some x
    else none
  scaled.map fun y => ofFloat (if negative then -y else y)

end Double

end Switchboard
