import Lexwork.Text.Blank

/-!
# Reading and writing integers

An integer literal is an optional sign and decimal digits, with single
underscores allowed between digits and blanks allowed around the whole.  The
number of digits is limited, and the limit is checked before anything that
follows the digits.  The same limit holds for writing: an integer with more
digits has no text.
-/

namespace Lexwork

inductive NumberFault
  | notInteger (literal : Text)
  | tooManyDigits (count : Nat)
  | notDecimal (literal : Text)
  deriving DecidableEq, Repr

/-- The largest number of digits that an integer may have to be read or written. -/
def integerDigitLimit : Nat := 4300

namespace Text

/-- Splits an optional sign from a text; the flag tells a minus sign. -/
def splitSign : Text → Bool × Text
  | '-' :: rest => (true, rest)
  | '+' :: rest => (false, rest)
  | text => (false, text)

/--
Whether digits and underscores form a literal: digits at both ends and no two
underscores side by side.  The flag tells whether a digit stands just before.
-/
def digitsApart : Bool → Text → Bool
  | afterDigit, [] => afterDigit
  | afterDigit, c :: rest =>
      if c = '_' then afterDigit && digitsApart false rest else digitsApart true rest

def digitsValue (digits : Text) : Nat :=
  Nat.ofDigitChars 10 digits 0

def signed (negative : Bool) (n : Nat) : Int :=
  if negative then -(n : Int) else n

def readInteger (literal : Text) : Except NumberFault Int :=
  let (negative, body) := splitSign literal.trimmed
  let run := body.takeWhile fun c => c.isDigit || c == '_'
  let digits := run.filter Char.isDigit
  if !digitsApart false run then
    .error (.notInteger literal)
  else if integerDigitLimit < digits.length then
    .error (.tooManyDigits digits.length)
  else if run.length < body.length then
    .error (.notInteger literal)
  else
    .ok (signed negative (digitsValue digits))

/-- Writes an integer in decimal, if it is not too long; the sign is not counted. -/
def writeInteger? (n : Int) : Option Text :=
  if (ofNat n.natAbs).length ≤ integerDigitLimit then some (ofInt n) else none

end Text

end Lexwork
