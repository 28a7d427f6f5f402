import Lexwork.Pattern.StringLiteral

/-!
# Standard patterns

Ready-made proposals for kinds of tokens that many languages share.
-/

namespace Lexwork

namespace Standard

def interpretInteger : Interpreter := fun text =>
  match text.readInteger with
  | .ok n => .ok (.int n)
  | .error fault => .error (.badValue (.number fault))

def interpretFloat : Interpreter := fun text =>
  match Double.read text with
  | .ok x => .ok (.float x)
  | .error fault => .error (.badValue (.number fault))

def constant (literal : Text) (name : Value) : Except Fault Proposal :=
  Proposal.ofPattern name (.text (Regex.escape literal)) (.bool false) .absent

def floatingPoint : Except Fault Proposal :=
  Proposal.ofPattern "floating point" (.text "-?[0-9]*\\.[0-9]+") (.bool false)
    (.function interpretFloat)

def integer : Except Fault Proposal :=
  Proposal.ofPattern "integer" (.text "-?[0-9]+") (.bool false) (.function interpretInteger)

/-- Blanks within a line, which are ignored. -/
def whitespace : Except Fault Proposal :=
  Proposal.ofPattern "whitespace" (.text "[ \\t]+") (.bool true) .absent

/-- Blanks and line breaks, which are ignored. -/
def whitespaceWithNewlines : Except Fault Proposal :=
  Proposal.ofPattern "whitespace" (.text "[ \\t\\r\\n]+") (.bool true) .absent

def comma : Except Fault Proposal := constant "," "comma"

def period : Except Fault Proposal := constant "." "period"

def star : Except Fault Proposal := constant "*" "star"

def colon : Except Fault Proposal := constant ":" "colon"

def openParen : Except Fault Proposal := constant "(" "open paren"

def closeParen : Except Fault Proposal := constant ")" "close paren"

/-- An opening brace. -/
def openBracket : Except Fault Proposal := constant "\x7b" "open bracket"

/-- A closing brace. -/
def closeBracket : Except Fault Proposal := constant "\x7d" "close bracket"

def openSquareBracket : Except Fault Proposal := constant "[" "open square bracket"

def closeSquareBracket : Except Fault Proposal := constant "]" "close square bracket"

def stringLiteral : Except Fault Proposal :=
  Proposal.ofConsumer "string" (.function fun text => .ok (StringLiteral.consume text))
    (.bool false) .absent

end Standard

end Lexwork
