import Lexwork.Grammar.Expression

/-!
# Programs of assignments

A program is a sequence of statements `name = expression ;`.  A statement that
does not parse becomes an entry with its failure, and parsing goes on behind the
next semicolon.
-/

namespace Lexwork

namespace Grammar

namespace Program

def lexer : Except Fault Lexer :=
  Lexer.ofProposals
    [Standard.whitespaceWithNewlines, Standard.floatingPoint, Standard.integer,
      Standard.stringLiteral,
      Proposal.ofPattern "identifier" (.text "[a-z_]+") (.bool false) .absent,
      Proposal.ofPattern "operator" (.text "[+\\-*/%]") (.bool false) .absent,
      Standard.constant "=" "equals", Standard.constant ";" "semicolon",
      Standard.openParen, Standard.closeParen]

def expression : Expression :=
  ⟨["integer", "floating point", "string", "identifier"], Table.arithmetic, Combine.node⟩

def statement : Parser Value := do
  let name ← Parser.expectContent "identifier"
  let _ ← TokenCursor.expect "equals"
  let tree ← expression.parse
  let _ ← TokenCursor.expect "semicolon"
  return .list [name, tree]

/-- A statement, or why there is none. -/
abbrev Entry := Except Fault Value

theorem forward_afterName (name : Value) : Parser.Forward (do
    let _ ← TokenCursor.expect "equals"
    let tree ← expression.parse
    let _ ← TokenCursor.expect "semicolon"
    return Value.list [name, tree]) :=
  Parser.forward_bind (Parser.forward_expect _) fun _ =>
    Parser.forward_bind expression.forward_parse fun _ =>
      Parser.forward_bind (Parser.forward_expect _) fun _ => Parser.forward_pure _

theorem forward_statement : Parser.Forward statement :=
  Parser.forward_bind (Parser.forward_expectContent _) forward_afterName

theorem advancing_statement : Parser.Advancing statement :=
  Parser.advancing_bind (Parser.advancing_expectContent _) forward_afterName

theorem remaining_lt_of_recovered {cursor failed after : TokenCursor} {fault : Fault}
    (before : cursor.atEnd = false) (tried : statement cursor = .error fault failed)
    (recovered : TokenCursor.skipPast "semicolon" failed = .ok () after) :
    after.remaining.toNat < cursor.remaining.toNat := by
  have back := forward_statement.error_le tried
  cases ended : failed.atEnd with
  | false => exact Nat.lt_of_lt_of_le (Parser.advancing_skipPast ended recovered) back
  | true =>
      rw [TokenCursor.skipPast] at recovered
      simp only [ended, Bool.true_eq_false, dite_false] at recovered
      cases recovered
      simp only [TokenCursor.atEnd, decide_eq_true_eq, decide_eq_false_iff_not,
        TokenCursor.remaining] at *
      omega

def parse (cursor : TokenCursor) : Except Fault (List Entry) :=
  if _before : cursor.atEnd = false then
    match _tried : statement cursor with
    | .ok value after => (parse after).map (.ok value :: ·)
    | .error fault failed =>
        if fault.isParsing then
          match _recovered : TokenCursor.skipPast "semicolon" failed with
          | .ok _ after => (parse after).map (.error fault :: ·)
          | .error other _ => .error other
        else
          .error fault
  else
    .ok []
termination_by cursor.remaining.toNat
decreasing_by
  · exact advancing_statement _ _ _ _tried
  · exact remaining_lt_of_recovered _before _tried _recovered

def entries (text : Value) : Except Fault (List Entry) := do
  let lexer ← lexer
  let tokens ← lexer.tokenize text
  parse { tokens := tokens.map Token.toValue }

end Program

end Grammar

end Lexwork
