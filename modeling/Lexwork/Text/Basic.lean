/-!
# Texts

A text is the list of its characters, so lengths and offsets count characters
and nothing else.  String literals stand for their lists of characters.

Offsets may be given from either end: a negative offset counts back from the
end of the text and never passes its start.
-/

namespace Lexwork

/-- A text is the list of its characters. -/
abbrev Text := List Char

/-- A string literal may be written where a text is meant. -/
instance : Coe String Text := ⟨String.toList⟩

namespace Text

/-- The index that a signed offset selects: a negative one counts from the end. -/
def start (text : Text) (offset : Int) : Nat :=
  if 0 ≤ offset then offset.toNat else (text.length + offset).toNat

/-- The part of a text from a signed offset onwards. -/
def dropFrom (text : Text) (offset : Int) : Text :=
  text.drop (text.start offset)

/-- Whether `piece` stands at a signed offset; nothing stands past the end. -/
def standsAt (text piece : Text) (offset : Int) : Bool :=
  decide (offset ≤ text.length) && piece.isPrefixOf (text.dropFrom offset)

/-- Whether a text equals another or stands before it, by the numbers of its characters. -/
def atMost : Text → Text → Bool
  | [], _ => true
  | _ :: _, [] => false
  | a :: as, b :: bs =>
      decide (a.toNat < b.toNat) || (a == b && atMost as bs)

def ofNat (n : Nat) : Text :=
  Nat.toDigits 10 n

def ofInt : Int → Text
  | .ofNat n => ofNat n
  | .negSucc n => '-' :: ofNat (n + 1)

/-- A number in lower-case hexadecimal, padded with zeros to a width. -/
def ofHex (width n : Nat) : Text :=
  let digits := Nat.toDigits 16 n
  List.replicate (width - digits.length) '0' ++ digits

@[simp] theorem start_natCast (text : Text) (n : Nat) : text.start n = n := by
  simp [start]

@[simp] theorem dropFrom_natCast (text : Text) (n : Nat) :
    text.dropFrom n = text.drop n := by
  simp [dropFrom]

/-- Inside the text, standing at an offset is being a prefix of what follows. -/
theorem standsAt_natCast {text piece : Text} {n : Nat} (inside : n ≤ text.length) :
    text.standsAt piece n = piece.isPrefixOf (text.drop n) := by
  simp [standsAt, inside]

end Text

end Lexwork
