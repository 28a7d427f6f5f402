import Lexwork.Pattern.Definition

/-!
# String literals

A string literal stands in double quotes.  Its escapes are `\t`, `\r`, `\n`, and
`\u` with four decimal digits for the character with that code; `\u` before
anything else stands for itself.  A literal with any other escape, or without
its closing quote, is no literal.
-/

namespace Lexwork

namespace StringLiteral

def escapeChar? : Char → Option Char
  | 't' => some '\t'
  | 'r' => some '\r'
  | 'n' => some '\n'
  | _ => none

structure Body where
  consumed : Text
  content : Text
  deriving DecidableEq, Repr

def Body.extend (consumed content : Text) (body : Body) : Body :=
  ⟨consumed ++ body.consumed, content ++ body.content⟩

/-- Reads a literal after its opening quote, up to the closing one. -/
def readBody? : Text → Option Body
  | [] => none
  | '"' :: _ => some ⟨['"'], []⟩
  | '\\' :: 'u' :: a :: b :: c :: d :: rest =>
      let digits := [a, b, c, d]
      if digits.all Char.isDigit then
        (readBody? rest).map
          (.extend ('\\' :: 'u' :: digits) [Char.ofNat (Text.digitsValue digits)])
      else
        (readBody? (a :: b :: c :: d :: rest)).map (.extend ['\\', 'u'] ['\\', 'u'])
  | '\\' :: 'u' :: rest => (readBody? rest).map (.extend ['\\', 'u'] ['\\', 'u'])
  | '\\' :: letter :: rest =>
      match escapeChar? letter with
      | some c => (readBody? rest).map (.extend ['\\', letter] [c])
      | none => none
  | ['\\'] => none
  | c :: rest => (readBody? rest).map (.extend [c] [c])

def read? : Text → Option Body
  | '"' :: rest => (readBody? rest).map (.extend ['"'] [])
  | _ => none

def consume (text : Text) : Value :=
  match read? text with
  | some body => .result (.bool true) (.str body.consumed) (.str body.content)
  | none => .failure

end StringLiteral

end Lexwork
