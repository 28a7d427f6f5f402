import Lexwork.Text.Basic

/-!
# The units of a pattern

A pattern is read in glyphs: a character, or a backslash together with the
character after it.  A backslash at the very end of a pattern is no glyph.
-/

namespace Lexwork

namespace Regex

/-- A character of a pattern, or an escaped one. -/
structure Glyph where
  escaped : Bool
  char : Char
  deriving DecidableEq, Repr

namespace Glyph

/-- Whether a glyph is the given character without a backslash. -/
def isPlain (glyph : Glyph) (c : Char) : Bool :=
  !glyph.escaped && glyph.char == c

/-- The number of characters that a glyph takes in its pattern. -/
def width (glyph : Glyph) : Nat :=
  if glyph.escaped then 2 else 1

def text (glyph : Glyph) : Text :=
  if glyph.escaped then ['\\', glyph.char] else [glyph.char]

/-- The glyphs of a pattern; a backslash at its end is left out. -/
def ofText : Text → List Glyph
  | [] => []
  | '\\' :: c :: rest => ⟨true, c⟩ :: ofText rest
  | ['\\'] => []
  | c :: rest => ⟨false, c⟩ :: ofText rest

/-- Whether a pattern ends in a backslash that escapes nothing. -/
def dangling : Text → Bool
  | [] => false
  | '\\' :: _ :: rest => dangling rest
  | ['\\'] => true
  | _ :: rest => dangling rest

def totalWidth (glyphs : List Glyph) : Nat :=
  glyphs.foldl (fun total glyph => total + glyph.width) 0

/-- The leading plain characters that satisfy a test, at most `n`. -/
def leading (test : Char → Bool) : Nat → List Glyph → Text
  | n + 1, glyph :: rest =>
      if !glyph.escaped && test glyph.char then glyph.char :: leading test n rest else []
  | _, _ => []

def startsWith (c : Char) : List Glyph → Bool
  | glyph :: _ => glyph.isPlain c
  | [] => false

end Glyph

end Regex

end Lexwork
