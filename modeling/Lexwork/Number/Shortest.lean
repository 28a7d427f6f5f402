import Lexwork.Number.Double

/-!
# The shortest decimal of a double

A finite double is written with the fewest digits that read back as itself, and
among those with the digits nearest to its value.  For each number of digits
the two neighbours of the value on that decimal grid are tested against the
interval of numbers that round to the double.

Exponents from `-4` to `15` are written positionally, always with a digit on
both sides of the point; other exponents have a sign and at least two digits.
-/

namespace Lexwork

namespace Double

/-- Digits of a decimal: the value is `0.digits * 10 ^ point`. -/
structure Decimal where
  digits : Text
  point : Int
  deriving DecidableEq, Repr

/-- The `point` of a positive quotient: `10 ^ (point - 1) ≤ value < 10 ^ point`. -/
def decimalPoint (numerator denominator : Nat) : Int :=
  if denominator ≤ numerator then
    (Nat.toDigits 10 (numerator / denominator)).length
  else
    let size := (Nat.toDigits 10 (denominator / numerator)).length
    let shift := if denominator ≤ numerator * Nat.pow 10 (size - 1) then size - 1 else size
    1 - (shift : Int)

/--
The interval of a double in quarter units: its value, the midpoint below, the
midpoint above, and whether the midpoints themselves round to it.
-/
structure Interval where
  value : Nat
  lower : Nat
  upper : Nat
  closed : Bool

/-- The numbers that round to a positive double. -/
def interval (significand shift : Nat) : Interval :=
  let unit := Nat.pow 2 shift
  let value := 4 * significand * unit
  let below := if significand = Nat.pow 2 (precision - 1) ∧ 0 < shift then unit else 2 * unit
  { value, lower := value - below, upper := value + 2 * unit, closed := significand % 2 == 0 }

/-- Whether the quotient `numerator / denominator` of quarter units lies in the interval. -/
def Interval.holds (range : Interval) (numerator denominator : Nat) : Bool :=
  if range.closed then
    decide (range.lower * denominator ≤ numerator) &&
      decide (numerator ≤ range.upper * denominator)
  else
    decide (range.lower * denominator < numerator) &&
      decide (numerator < range.upper * denominator)

def candidate? (range : Interval) (point : Int) (count : Nat) : Option Nat :=
  let quarters := 4 * Nat.pow 2 unitShift
  let up := Nat.pow 10 (point - count).toNat * quarters
  let down := Nat.pow 10 (count - point).toNat
  let low := range.value * down / up
  let high := low + 1
  let lowHolds := range.holds (low * up) down
  let highHolds := range.holds (high * up) down
  let lowGap := range.value * down - low * up
  let highGap := high * up - range.value * down
  if lowHolds && highHolds then
    some (if lowGap < highGap ∨ (lowGap = highGap ∧ low % 2 = 0) then low else high)
  else if lowHolds then some low
  else if highHolds then some high
  else none

def firstCandidate (range : Interval) (point : Int) : Nat → Nat → Nat × Nat
  | 0, count =>
      (range.value * Nat.pow 10 (count - point).toNat / (4 * Nat.pow 2 unitShift), count)
  | fuel + 1, count =>
      match candidate? range point count with
      | some n => (n, count)
      | none => firstCandidate range point fuel (count + 1)

def shortest (significand shift : Nat) : Decimal :=
  let range := interval significand shift
  let point := decimalPoint (significand * Nat.pow 2 shift) (Nat.pow 2 unitShift)
  let (n, count) := firstCandidate range point 17 1
  let digits := Nat.toDigits 10 n
  { digits := (digits.reverse.dropWhile (· == '0')).reverse
    point := point + ((digits.length : Int) - count) }

/-- The least exponent that is written positionally. -/
def leastPositional : Int := -4

/-- Exponents from this one on are written with an exponent mark. -/
def leastScientific : Int := 16

def exponentText (exponent : Int) : Text :=
  let digits := Nat.toDigits 10 exponent.natAbs
  (if exponent < 0 then '-' else '+') :: (List.replicate (2 - digits.length) '0' ++ digits)

def Decimal.text (decimal : Decimal) : Text :=
  let exponent := decimal.point - 1
  let digits := decimal.digits
  if leastPositional ≤ exponent ∧ exponent < leastScientific then
    if decimal.point ≤ 0 then
      "0." ++ List.replicate (-decimal.point).toNat '0' ++ digits
    else
      let whole := decimal.point.toNat
      if digits.length ≤ whole then
        digits ++ List.replicate (whole - digits.length) '0' ++ ".0"
      else
        digits.take whole ++ '.' :: digits.drop whole
  else
    let fraction := digits.drop 1
    digits.take 1 ++ (if fraction = [] then [] else '.' :: fraction) ++
      'e' :: exponentText exponent

def text : Double → Text
  | .nan => "nan"
  | .infinite negative => if negative then "-inf" else "inf"
  | .finite negative significand shift =>
      let magnitude : Text :=
        if significand = 0 then "0.0" else (shortest significand shift).text
      if negative then '-' :: magnitude else magnitude

end Double

end Lexwork
