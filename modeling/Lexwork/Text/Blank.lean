import Lexwork.Text.Basic

/-!
# Blank characters

The characters with the White_Space property.  They may surround the text of a
number.
-/

namespace Lexwork

/-- The ranges of code points that have the White_Space property. -/
def blankRanges : List (Nat × Nat) :=
  [(0x09, 0x0D), (0x20, 0x20), (0x85, 0x85), (0xA0, 0xA0), (0x1680, 0x1680),
    (0x2000, 0x200A), (0x2028, 0x2029), (0x202F, 0x202F), (0x205F, 0x205F),
    (0x3000, 0x3000)]

def inRanges (ranges : List (Nat × Nat)) (code : Nat) : Bool :=
  ranges.any fun range => decide (range.1 ≤ code) && decide (code ≤ range.2)

def isBlank (c : Char) : Bool :=
  inRanges blankRanges c.toNat

namespace Text

def trimmed (text : Text) : Text :=
  ((text.dropWhile isBlank).reverse.dropWhile isBlank).reverse

end Text

end Lexwork
