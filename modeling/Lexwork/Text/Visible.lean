import Lexwork.Text.Basic

/-!
# Previews

A preview shows a text on one line: control characters are written as escapes
and every other character stands for itself.
-/

namespace Lexwork

/-- Whether a character is a control character (C0, delete or C1). -/
def isControl (c : Char) : Bool :=
  decide (c.toNat < 0x20) || (decide (0x7F ≤ c.toNat) && decide (c.toNat < 0xA0))

/--
How one character is shown: tab, line feed and carriage return by name, any
other control character by its two hexadecimal digits.
-/
def visibleChar (c : Char) : Text :=
  if c = '\r' then ['\\', 'r']
  else if c = '\n' then ['\\', 'n']
  else if c = '\t' then ['\\', 't']
  else if isControl c then '\\' :: 'x' :: Text.ofHex 2 c.toNat
  else [c]

namespace Text

/-- A text with its control characters written as escapes. -/
def visible (text : Text) : Text :=
  text.flatMap visibleChar

end Text

end Lexwork
