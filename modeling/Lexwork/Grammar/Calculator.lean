import Lexwork.Grammar.Expression

/-!
# The calculator

Expressions over integers with parentheses.  The caller chooses the precedence
table and what an operator builds from its operands.
-/

namespace Lexwork

namespace Grammar

namespace Calculator

def lexer : Except Fault Lexer :=
  Lexer.ofProposals
    [Standard.whitespace, Standard.integer,
      Proposal.ofPattern "operator" (.text "[+\\-*/%^]") (.bool false) .absent,
      Standard.openParen, Standard.closeParen]

/-- The expressions of the calculator, whose only atoms are integers. -/
def expression (table : Table) (combine : Combine Value) : Expression :=
  ⟨["integer"], table, combine⟩

def parse (table : Table) (combine : Combine Value) : Parser Value := do
  let value ← (expression table combine).parse
  Parser.read TokenCursor.expectEnd
  return value

def tokens (text : Value) : Except Fault (List Value) := do
  let lexer ← lexer
  return (← lexer.tokenize text).map Token.toValue

/-- What a text of the calculator builds. -/
def evaluate (table : Table) (combine : Combine Value) (text : Value) : Except Fault Value := do
  match parse table combine { tokens := ← tokens text } with
  | .ok value _ => .ok value
  | .error fault _ => .error fault

end Calculator

end Grammar

end Lexwork
