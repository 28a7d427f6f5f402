import Lexwork.Number.Integer

/-!
# Floating-point numbers

A double is an exact value: not a number, an infinity, or a signed integer
multiple of the least positive double.  Every finite double is
`significand * 2 ^ shift` such multiples.  Reading a decimal rounds the exact
quotient once, to the nearest double and to the even one of two nearest.
-/

namespace Lexwork

/-- A double-precision number; a finite one counts units of `2 ^ -1074`. -/
inductive Double
  | nan
  | infinite (negative : Bool)
  | finite (negative : Bool) (significand shift : Nat)
  deriving DecidableEq, Repr

namespace Double

def precision : Nat := 53

/-- One is this power of two in units of the least positive double. -/
def unitShift : Nat := 1074

/-- The largest shift of a finite double. -/
def maxShift : Nat := 2045

def zero (negative : Bool) : Double :=
  .finite negative 0 0

/-- The quotient rounded to the nearest integer, a tie to the even one. -/
def roundedQuotient (numerator denominator : Nat) : Nat :=
  let quotient := numerator / denominator
  let twice := 2 * (numerator % denominator)
  if twice < denominator then quotient
  else if denominator < twice then quotient + 1
  else quotient + quotient % 2

/-- The finite double of a rounded significand, or the infinity it overflows to. -/
def normalized (negative : Bool) (significand shift : Nat) : Double :=
  let (significand, shift) :=
    if significand = Nat.pow 2 precision then (Nat.pow 2 (precision - 1), shift + 1)
    else (significand, shift)
  if maxShift < shift then .infinite negative else .finite negative significand shift

/-- The double nearest to a non-negative quotient, with a sign. -/
def ofRatio (negative : Bool) (numerator denominator : Nat) : Double :=
  let scaled := numerator * Nat.pow 2 unitShift
  let shift := Nat.log2 (scaled / denominator) + 1 - precision
  normalized negative (roundedQuotient scaled (denominator * Nat.pow 2 shift)) shift

/--
The double nearest to `n * 10 ^ exponent`, where `n` has `size` digits.  Values
far outside the range are decided by their order of magnitude alone.
-/
def ofDecimal (negative : Bool) (n size : Nat) (exponent : Int) : Double :=
  if n = 0 ∨ exponent + size < -330 then zero negative
  else if 330 < exponent + size then .infinite negative
  else if 0 ≤ exponent then ofRatio negative (n * Nat.pow 10 exponent.toNat) 1
  else ofRatio negative n (Nat.pow 10 (-exponent).toNat)

/-! ## Reading -/

structure Literal where
  digits : Text
  exponent : Int
  deriving DecidableEq, Repr

/-- Reads an exponent mark with its digits; an absent exponent is zero. -/
def readExponent? : Text → Option Int
  | [] => some 0
  | mark :: rest =>
      let (negative, digits) := Text.splitSign rest
      if (mark = 'e' ∨ mark = 'E') ∧ digits ≠ [] ∧ digits.all Char.isDigit then
        some (Text.signed negative (Text.digitsValue digits))
      else
        none

/-- Reads digits with an optional point and exponent. -/
def readLiteral? (body : Text) : Option Literal :=
  let whole := body.takeWhile Char.isDigit
  let rest := body.dropWhile Char.isDigit
  let (fraction, rest) :=
    match rest with
    | '.' :: after => (after.takeWhile Char.isDigit, after.dropWhile Char.isDigit)
    | _ => ([], rest)
  if whole ++ fraction = [] then none
  else
    (readExponent? rest).map fun exponent =>
      ⟨whole ++ fraction, exponent - fraction.length⟩

/-- Removes underscores; each has to stand between two digits. -/
def dropUnderscores? : Bool → Text → Option Text
  | _, [] => some []
  | afterDigit, '_' :: c :: rest =>
      if afterDigit && c.isDigit then (dropUnderscores? true rest).map (c :: ·) else none
  | _, ['_'] => none
  | _, c :: rest => (dropUnderscores? c.isDigit rest).map (c :: ·)

def readUnsigned? (negative : Bool) (body : Text) : Option Double :=
  let word := body.map Char.toLower
  if word = "inf" ∨ word = "infinity" then some (.infinite negative)
  else if word = "nan" then some .nan
  else
    (readLiteral? body).map fun literal =>
      let digits := literal.digits.dropWhile (· == '0')
      ofDecimal negative (Text.digitsValue digits) digits.length literal.exponent

/-- Reads a decimal literal, an infinity or `nan`, with blanks around it. -/
def read (literal : Text) : Except NumberFault Double :=
  let found := do
    let text ← dropUnderscores? false literal.trimmed
    let (negative, body) := Text.splitSign text
    readUnsigned? negative body
  match found with
  | some value => .ok value
  | none => .error (.notDecimal literal)

/--
A key that orders numbers as their values do: infinities stand outside all
finite values, and a finite value counts units.  A missing key compares with
nothing.
-/
def rank? : Double → Option (Int × Int)
  | .nan => none
  | .infinite negative => some (if negative then -1 else 1, 0)
  | .finite negative significand shift =>
      some (0, Text.signed negative (significand * Nat.pow 2 shift))

def isZero : Double → Bool
  | .finite _ significand _ => significand == 0
  | _ => false

end Double

end Lexwork
