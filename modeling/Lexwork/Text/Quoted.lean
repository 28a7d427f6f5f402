import Lexwork.Text.Blank

/-!
# Quoted texts

The quoted form of a text names it unambiguously on one line.  It stands in
single quotes, or in double quotes if the text holds a single quote and no
double quote; the quote in use, the backslash and every character without a
visible form are escaped.  A code point that no character is assigned to counts
as visible here.
-/

namespace Lexwork

/--
The ranges of code points without a visible form: controls, separators other
than the space, format characters and private use.
-/
def unprintableRanges : List (Nat × Nat) :=
  [(0x00, 0x1F), (0x7F, 0xA0), (0xAD, 0xAD), (0x600, 0x605), (0x61C, 0x61C),
    (0x6DD, 0x6DD), (0x70F, 0x70F), (0x890, 0x891), (0x8E2, 0x8E2),
    (0x1680, 0x1680), (0x180E, 0x180E), (0x2000, 0x200F), (0x2028, 0x202F),
    (0x205F, 0x206F), (0x3000, 0x3000), (0xE000, 0xF8FF), (0xFEFF, 0xFEFF),
    (0xFFF0, 0xFFFB), (0xFFFE, 0xFFFF), (0x110BD, 0x110BD), (0x110CD, 0x110CD),
    (0x13430, 0x13438), (0x1BCA0, 0x1BCA3), (0x1D173, 0x1D17A),
    (0xE0000, 0xE00FF), (0xE01F0, 0x10FFFF)]

/-- Whether a character is shown as itself inside quotes. -/
def isPrintable (c : Char) : Bool :=
  !inRanges unprintableRanges c.toNat

/-- A code point as an escape of two, four or eight hexadecimal digits. -/
def escapedCode (code : Nat) : Text :=
  if code < 0x100 then '\\' :: 'x' :: Text.ofHex 2 code
  else if code < 0x10000 then '\\' :: 'u' :: Text.ofHex 4 code
  else '\\' :: 'U' :: Text.ofHex 8 code

def isPrintableByte (c : Char) : Bool :=
  decide (c.toNat < 0x80) && isPrintable c

/-- How one character is written inside the given quotes, if only some characters are shown. -/
def quotedChar (shown : Char → Bool) (quote c : Char) : Text :=
  if c = quote ∨ c = '\\' then ['\\', c]
  else if c = '\n' then ['\\', 'n']
  else if c = '\r' then ['\\', 'r']
  else if c = '\t' then ['\\', 't']
  else if shown c then [c]
  else escapedCode c.toNat

namespace Text

/-- The quote that a text is put in. -/
def quoteMark (text : Text) : Char :=
  if text.contains '\'' && !text.contains '"' then '"' else '\''

/-- A text in quotes, with escapes for all but some characters. -/
def quotedIf (shown : Char → Bool) (text : Text) : Text :=
  text.quoteMark :: (text.flatMap (quotedChar shown text.quoteMark) ++ [text.quoteMark])

def quoted (text : Text) : Text :=
  text.quotedIf isPrintable

/-- Bytes, given by the characters of their codes, in quotes. -/
def quotedBytes (text : Text) : Text :=
  'b' :: text.quotedIf isPrintableByte

end Text

end Lexwork
