import Lexwork.Lexer
import Lexwork.Pattern.Standard
import Lexwork.TokenCursor

/-!
# List literals

A list literal is a sequence of integers in square brackets.  A comma may follow
every integer, and may be missing.
-/

namespace Lexwork

namespace Grammar

namespace ListLiteral

def lexer : Except Fault Lexer :=
  Lexer.ofProposals
    [Standard.whitespaceWithNewlines, Standard.integer, Standard.comma,
      Standard.openSquareBracket, Standard.closeSquareBracket]

/-- Takes a comma if one stands next; something has to stand there. -/
def skipComma : Parser Unit := do
  if ← Parser.read (·.looksAt "comma") then
    let _ ← TokenCursor.expect "comma"

/-- Parses an integer with an optional comma behind it. -/
def element : Parser Value := do
  let content ← Parser.expectContent "integer"
  skipComma
  return content

theorem advancing_element : Parser.Advancing element := by
  refine Parser.advancing_bind (Parser.advancing_expectContent _) fun _ => ?_
  refine Parser.forward_bind ?_ fun _ => Parser.forward_pure _
  refine Parser.forward_bind (Parser.forward_read _) fun found => ?_
  cases found with
  | true => exact Parser.forward_bind (Parser.forward_expect _) fun _ => Parser.forward_pure _
  | false => exact Parser.forward_pure _

/-- Parses elements up to a closing bracket, which is left in place. -/
def elements : Parser (List Value) := fun cursor =>
  match cursor.looksAt "close square bracket" with
  | .error fault => .error fault cursor
  | .ok true => .ok [] cursor
  | .ok false =>
      match _parsed : element cursor with
      | .error fault after => .error fault after
      | .ok content after =>
          match elements after with
          | .error fault last => .error fault last
          | .ok contents last => .ok (content :: contents) last
termination_by cursor => cursor.remaining.toNat
decreasing_by exact advancing_element _ _ _ _parsed

def parse : Parser (List Value) := do
  let _ ← TokenCursor.expect "open square bracket"
  let contents ← elements
  let _ ← TokenCursor.expect "close square bracket"
  Parser.read TokenCursor.expectEnd
  return contents

def evaluate (text : Value) : Except Fault (List Value) := do
  let lexer ← lexer
  let tokens ← lexer.tokenize text
  match parse { tokens := tokens.map Token.toValue } with
  | .ok contents _ => .ok contents
  | .error fault _ => .error fault

end ListLiteral

end Grammar

end Lexwork
