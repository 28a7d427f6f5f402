import Lexwork.Lexer
import Lexwork.Operator.Yard
import Lexwork.Pattern.Standard
import Lexwork.TokenCursor

/-!
# Expressions

An expression is a sequence of operands with operators between them; an operand
is a single token or an expression in parentheses.  Every expression has a
yard of its own.  An opening parenthesis suspends the current yard and a
closing one hands the value of the inner expression to the suspended one, so
the run keeps a stack of suspended yards and ends because each step takes a
token.
-/

namespace Lexwork

namespace Grammar

/-- What an expression is made of and what it builds. -/
structure Expression where
  operands : List Text
  table : Table
  combine : Combine Value

inductive Start
  | group
  | atom
  | other
  deriving DecidableEq, Repr

inductive Phase
  | operand
  | operator
  deriving DecidableEq, Repr

namespace Expression

/-- What stands where an operand is wanted; nothing stands at the end. -/
def startOf (expression : Expression) (cursor : TokenCursor) : Except Fault Start :=
  if cursor.atEnd then .ok .other
  else
    cursor.peekType.map fun type =>
      if type.same "open paren" then .group
      else if expression.operands.any fun operand => type.same (.str operand) then .atom
      else .other

/-- Whether an operator stands next; nothing stands at the end. -/
def operatorNext (cursor : TokenCursor) : Except Fault Bool :=
  if cursor.atEnd then .ok false else cursor.looksAt "operator"

def takeAtom (start : Start) : Parser Value :=
  match start with
  | .atom => TokenCursor.next
  | _ => TokenCursor.expect "integer"

theorem remaining_lt_of_takeAtom {start : Start} {cursor after : TokenCursor} {item : Value}
    (taken : takeAtom start cursor = .ok item after) :
    after.remaining.toNat < cursor.remaining.toNat := by
  cases start with
  | group => exact TokenCursor.remaining_lt_of_expect taken
  | atom => exact TokenCursor.remaining_lt_of_next taken
  | other => exact TokenCursor.remaining_lt_of_expect taken

/--
Runs from a phase, with the suspended yards and the current one.  The run
ends with the value of the outermost expression.
-/
def run (expression : Expression) :
    Phase → List (Yard Value) → Yard Value → Parser Value
  | .operand, suspended, current, cursor =>
      match expression.startOf cursor with
      | .error fault => .error fault cursor
      | .ok .group =>
          match _opened : TokenCursor.expect "open paren" cursor with
          | .error fault after => .error fault after
          | .ok _ after => run expression .operand (current :: suspended) {} after
      | .ok start =>
          match _taken : takeAtom start cursor with
          | .error fault after => .error fault after
          | .ok item after =>
              match TokenCursor.contentOf item with
              | .error fault => .error fault after
              | .ok content => run expression .operator suspended (current.addOperand content) after
  | .operator, suspended, current, cursor =>
      match operatorNext cursor with
      | .error fault => .error fault cursor
      | .ok true =>
          match _taken : TokenCursor.next cursor with
          | .error fault after => .error fault after
          | .ok item after =>
              match current.addOperator expression.table expression.combine item with
              | .error fault _ => .error fault after
              | .ok _ pushed => run expression .operand suspended pushed after
      | .ok false =>
          match current.finish expression.combine with
          | .error fault _ => .error fault cursor
          | .ok root _ =>
              match suspended with
              | [] => .ok root cursor
              | outer :: rest =>
                  match _closed : TokenCursor.expect "close paren" cursor with
                  | .error fault after => .error fault after
                  | .ok _ after => run expression .operator rest (outer.addOperand root) after
termination_by _ _ _ cursor => cursor.remaining.toNat
decreasing_by
  · exact TokenCursor.remaining_lt_of_expect _opened
  · exact remaining_lt_of_takeAtom _taken
  · exact TokenCursor.remaining_lt_of_next _taken
  · exact TokenCursor.remaining_lt_of_expect _closed

def parse (expression : Expression) : Parser Value :=
  run expression .operand [] {}

theorem forward_run (expression : Expression) (phase : Phase) (suspended : List (Yard Value))
    (current : Yard Value) : Parser.Forward (expression.run phase suspended current) := by
  intro cursor
  fun_induction run expression phase suspended current cursor with
  | case1 => exact Nat.le_refl _
  | case2 _ _ _ _ _ _ opened => exact (Parser.forward_expect _).error_le opened
  | case3 _ _ _ _ _ _ opened ih =>
      exact Nat.le_trans ih ((Parser.forward_expect _).ok_le opened)
  | case4 _ _ _ start _ _ _ _ taken =>
      cases start with
      | group => exact (Parser.forward_expect _).error_le taken
      | atom => exact Parser.forward_next.error_le taken
      | other => exact (Parser.forward_expect _).error_le taken
  | case5 _ _ _ _ _ _ _ _ taken => exact Nat.le_of_lt (remaining_lt_of_takeAtom taken)
  | case6 _ _ _ _ _ _ _ _ taken _ _ ih =>
      exact Nat.le_trans ih (Nat.le_of_lt (remaining_lt_of_takeAtom taken))
  | case7 => exact Nat.le_refl _
  | case8 _ _ _ _ _ _ taken => exact Parser.forward_next.error_le taken
  | case9 _ _ _ _ _ _ taken => exact Parser.forward_next.ok_le taken
  | case10 _ _ _ _ _ _ taken _ _ _ ih =>
      exact Nat.le_trans ih (Parser.forward_next.ok_le taken)
  | case11 => exact Nat.le_refl _
  | case12 => exact Nat.le_refl _
  | case13 _ _ _ _ _ _ _ _ _ _ closed => exact (Parser.forward_expect _).error_le closed
  | case14 _ _ _ _ _ _ _ _ _ _ closed ih =>
      exact Nat.le_trans ih ((Parser.forward_expect _).ok_le closed)

theorem forward_parse (expression : Expression) : Parser.Forward expression.parse :=
  expression.forward_run .operand [] {}

end Expression

end Grammar

end Lexwork
