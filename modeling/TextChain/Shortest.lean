import TextChain.Hash

/-!
The shortest decimal that reads back as a given floating point number, the text of such a number, and
its exact comparison with integers.
-/

namespace TextChain

/-- What the 64 bits of a floating point number stand for: `mantissa * 2 ^ exponent`, an infinity, or
no number at all. -/
inductive Binary64 where
  | notANumber
  | infinite (negative : Bool)
  | finite (negative : Bool) (mantissa : Nat) (exponent : Int)
  deriving DecidableEq, Repr

def Binary64.ofBits (bits : Nat) : Binary64 :=
  let negative := 9223372036854775808 ≤ bits
  let power := bits / 4503599627370496 % 2048
  let fraction := bits % 4503599627370496
  if power = 2047 then
    if fraction = 0 then .infinite negative else .notANumber
  else if power = 0 then .finite negative fraction (-1074)
  else .finite negative (fraction + 4503599627370496) ((power : Int) - 1075)

def binary64 (x : Float) : Binary64 :=
  .ofBits x.toBits.toNat

def scaleTen (ratio : Nat × Nat) (power : Int) : Nat × Nat :=
  if 0 ≤ power then (ratio.1 * Nat.pow 10 power.toNat, ratio.2)
  else (ratio.1, ratio.2 * Nat.pow 10 (-power).toNat)

def scaleTwo (n : Nat) (power : Int) : Nat × Nat :=
  if 0 ≤ power then (n * Nat.pow 2 power.toNat, 1) else (n, Nat.pow 2 (-power).toNat)

def leadingZeros : Nat → Nat × Nat → Nat
  | 0, _ => 0
  | fuel + 1, (top, bottom) =>
      if bottom ≤ top then 0 else leadingZeros fuel (top * 10, bottom) + 1

def magnitude (ratio : Nat × Nat) : Int :=
  if ratio.2 ≤ ratio.1 then ((digits 10 (ratio.1 / ratio.2)).length : Int) - 1
  else -(leadingZeros 400 ratio : Int)

structure Decimal where
  value : Nat
  power : Int
  deriving DecidableEq, Repr

/-- The reals that round to `mantissa * 2 ^ exponent`, in quarters of its last place; the ends belong
to them when the mantissa is even. -/
structure Rounding where
  low : Nat
  middle : Nat
  high : Nat
  closed : Bool

def roundingOf (mantissa : Nat) (exponent : Int) : Rounding :=
  let closerBelow := mantissa = 4503599627370496 && -1074 < exponent
  { low := 4 * mantissa - (if closerBelow then 1 else 2)
    middle := 4 * mantissa
    high := 4 * mantissa + 2
    closed := mantissa % 2 == 0 }

def Rounding.holds (range : Rounding) (exponent power : Int) (value : Nat) : Bool :=
  let below := scaleTen (scaleTwo range.low (exponent - 2)) (-power)
  let above := scaleTen (scaleTwo range.high (exponent - 2)) (-power)
  if range.closed then below.1 ≤ value * below.2 && value * above.2 ≤ above.1
  else below.1 < value * below.2 && value * above.2 < above.1

/-- The neighbour of the number on the grid `10 ^ power` that reads back; of two the nearer, and of
two equally near the even one. -/
def Rounding.pick? (range : Rounding) (exponent power : Int) : Option Nat :=
  let exact := scaleTen (scaleTwo range.middle (exponent - 2)) (-power)
  let down := exact.1 / exact.2
  let up := down + 1
  match range.holds exponent power down, range.holds exponent power up with
  | true, true =>
      let rest := 2 * (exact.1 % exact.2)
      if rest < exact.2 then some down
      else if exact.2 < rest then some up
      else some (if down % 2 = 0 then down else up)
  | true, false => some down
  | false, true => some up
  | false, false => none

def shortestFrom (range : Rounding) (exponent : Int) : Nat → Int → Decimal
  | 0, power => ⟨0, power⟩
  | fuel + 1, power =>
      match range.pick? exponent power with
      | some value => ⟨value, power⟩
      | none => shortestFrom range exponent fuel (power - 1)

def shortest (mantissa : Nat) (exponent : Int) : Decimal :=
  shortestFrom (roundingOf mantissa exponent) exponent 20 (magnitude (scaleTwo mantissa exponent))

def Decimal.significant (d : Decimal) : List Char × Int :=
  let written := digits 10 d.value
  ((written.reverse.dropWhile (· == '0')).reverse, (written.length : Int) - 1 + d.power)

/-- Positional from `0.0001` up to sixteen digits before the point, with a point in every case; else one
digit before the point and an exponent of at least two digits. -/
def decimalText (figures : List Char) (power : Int) : List Char :=
  if -4 ≤ power && power < 16 then
    if power < 0 then '0' :: '.' :: List.replicate (-power - 1).toNat '0' ++ figures
    else
      let whole := power.toNat + 1
      let front := figures.take whole ++ List.replicate (whole - figures.length) '0'
      let back := figures.drop whole
      front ++ '.' :: (if back.isEmpty then ['0'] else back)
  else
    let mark := if power < 0 then '-' else '+'
    let exponent := mark :: paddedDigits 10 2 power.natAbs
    match figures with
    | [] => []
    | [d] => d :: 'e' :: exponent
    | d :: rest => d :: '.' :: rest ++ 'e' :: exponent

def Binary64.text : Binary64 → List Char
  | .notANumber => "nan".toList
  | .infinite negative => if negative then "-inf".toList else "inf".toList
  | .finite negative mantissa exponent =>
      let body :=
        if mantissa = 0 then "0.0".toList
        else
          let (figures, power) := (shortest mantissa exponent).significant
          decimalText figures power
      if negative then '-' :: body else body

def floatText (x : Float) : String :=
  String.ofList (binary64 x).text

/-! ## Comparison with integers -/

def compareInt (n : Int) : Binary64 → Option Ordering
  | .notANumber => none
  | .infinite negative => some (if negative then .gt else .lt)
  | .finite negative mantissa exponent =>
      let (top, bottom) := scaleTwo mantissa exponent
      let value : Int := if negative then -(top : Int) else top
      some (compare (n * bottom) value)

def Binary64.truncate? : Binary64 → Option Int
  | .finite negative mantissa exponent =>
      let (top, bottom) := scaleTwo mantissa exponent
      some (if negative then -((top / bottom : Nat) : Int) else ((top / bottom : Nat) : Int))
  | _ => none

end TextChain
