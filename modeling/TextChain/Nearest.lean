import TextChain.Shortest

/-!
The floating point number nearest to a ratio of whole numbers. Of two equally near the one with the
even mantissa is taken, and a ratio beyond the largest number has none. No other way of rounding is
needed.
-/

namespace TextChain

/-- The whole number nearest to a ratio; of two equally near the even one. -/
def roundHalfEven (top bottom : Nat) : Nat :=
  let down := top / bottom
  let rest := 2 * (top % bottom)
  if rest < bottom then down
  else if bottom < rest then down + 1
  else down + down % 2

def ratioLog (top bottom : Nat) : Int :=
  let guess : Int := (top.log2 : Int) - bottom.log2
  let power := scaleTwo bottom guess
  if power.1 ≤ top * power.2 then guess else guess - 1

def inUnits (top bottom : Nat) (unit : Int) : Nat × Nat :=
  if 0 ≤ unit then (top, bottom * Nat.pow 2 unit.toNat) else (top * Nat.pow 2 (-unit).toNat, bottom)

/-- The bits of the nearest number, without the sign. A mantissa that is rounded up to the next power of
two carries into the exponent. -/
def nearestBits? (top bottom : Nat) : Option Nat :=
  if top = 0 then some 0
  else
    let unit := max (ratioLog top bottom - 52) (-1074)
    let scaled := inUnits top bottom unit
    let bits := (unit + 1074).toNat * 4503599627370496 + roundHalfEven scaled.1 scaled.2
    if bits < 9218868437227405312 then some bits else none

def nearest? (negative : Bool) (top bottom : Nat) : Option Float :=
  (nearestBits? top bottom).map fun bits =>
    Float.ofBits (UInt64.ofNat (bits + if negative then 9223372036854775808 else 0))

def nearestToInt? (n : Int) : Option Float :=
  nearest? (n < 0) n.natAbs 1

def nearestDecimal (negative : Bool) (value : Nat) (power : Int) : Float :=
  let ratio := scaleTen (value, 1) power
  match nearest? negative ratio.1 ratio.2 with
  | some x => x
  | none => if negative then -1.0 / 0.0 else 1.0 / 0.0

end TextChain
