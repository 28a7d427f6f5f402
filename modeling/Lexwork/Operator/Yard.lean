import Lexwork.Operator.Table

/-!
# Shunting yards

A yard turns operands and binary operators, added in the order of an
expression, into a tree.  It keeps pending operators and finished operands.
Adding an operator first reduces the topmost pending operator if the new one
binds no tighter, once; finishing reduces all pending operators.

What a reduction builds is up to the caller, and may fail.  A failing action
leaves behind what it did before the failure.
-/

namespace Lexwork

/-- Builds the value of an operator applied to two operands. -/
abbrev Combine (α : Type) := Value → α → α → Except Fault α

/-- Pending operators and finished operands, both topmost first. -/
structure Yard (α : Type) where
  operators : List Value := []
  output : List α := []

namespace Yard

/-- An action on a yard, which keeps its state even if it fails. -/
abbrev Action (α β : Type) := EStateM Fault (Yard α) β

variable {α : Type}

def addOperand (yard : Yard α) (value : α) : Yard α :=
  { yard with output := value :: yard.output }

def push (yard : Yard α) (operator : Value) : Yard α :=
  { yard with operators := operator :: yard.operators }

def missingOperand (operator : Value) : Fault :=
  .showing operator.symbol.display? fun symbol => .parsing (.missingOperand symbol)

/--
Replaces the two topmost operands by what the topmost operator makes of them.
Nothing is removed if an operand is missing.
-/
def reduce (combine : Combine α) : Action α Unit := fun yard =>
  match yard.operators with
  | [] => .error .outOfRange yard
  | operator :: pending =>
      match yard.output with
      | right :: left :: rest =>
          match combine operator left right with
          | .ok value => .ok () ⟨pending, value :: rest⟩
          | .error fault => .error fault ⟨pending, rest⟩
      | _ => .error (missingOperand operator) yard

def unknownOperator (operator : Value) : Fault :=
  let token : Value :=
    match operator with
    | .token .. => operator
    | _ => .none
  .showing operator.symbol.display? fun shown =>
    .showing operator.symbol.literal? fun written =>
      Unexpected.raise "operator" token (.str (shown ++ " is not a valid operator")) (.str written)

/-- Adds an operator, after at most one reduction. -/
def addOperator (table : Table) (combine : Combine α) (operator : Value) : Action α Unit :=
  fun yard =>
    match table.lookup operator.symbol with
    | .error fault => .error fault yard
    | .ok none => .error (unknownOperator operator) yard
    | .ok (some precedence) =>
        match yard.operators with
        | [] => .ok () (yard.push operator)
        | top :: _ =>
            match table.yields precedence top with
            | .error fault => .error fault yard
            | .ok false => .ok () (yard.push operator)
            | .ok true =>
                match reduce combine yard with
                | .error fault next => .error fault next
                | .ok _ next => .ok () (next.push operator)

/-- Reduces a number of times, up to the first failure. -/
def reduceTimes (combine : Combine α) : Nat → Action α Unit
  | 0, yard => .ok () yard
  | n + 1, yard =>
      match reduce combine yard with
      | .error fault next => .error fault next
      | .ok _ next => reduceTimes combine n next

/-- Reduces all pending operators and hands over the one operand that is left. -/
def finish (combine : Combine α) : Action α α := fun yard =>
  match reduceTimes combine yard.operators.length yard with
  | .error fault next => .error fault next
  | .ok _ next =>
      match next.output with
      | [] => .error (.parsing .emptyExpression) next
      | [root] => .ok root { next with output := [] }
      | _ :: _ :: _ => .error (.parsing .severalOperands) next

end Yard

namespace Combine

def node : Combine Value := fun operator left right => .ok (.node operator left right)

def list : Combine Value := fun operator left right => .ok (.list [operator.symbol, left, right])

def inapplicable : Combine Value := fun _ _ _ => .error .typeMismatch

/-- The integer that a value is, with truth values as zero and one. -/
def integer? : Value → Option Int
  | .int n => some n
  | .bool b => some (if b then 1 else 0)
  | _ => none

/-- The arithmetic that a symbol stands for; division rounds down. -/
def operation? : Value → Option (Int → Int → Except Fault Int)
  | .str ['+'] => some fun a b => .ok (a + b)
  | .str ['-'] => some fun a b => .ok (a - b)
  | .str ['*'] => some fun a b => .ok (a * b)
  | .str ['/'] => some fun a b => if b = 0 then .error .divisionByZero else .ok (a.fdiv b)
  | _ => none

def arithmetic : Combine Value := fun operator left right =>
  match operation? operator.symbol with
  | none => .error (.unknownKey operator.symbol)
  | some apply =>
      match integer? left, integer? right with
      | some a, some b => (apply a b).map .int
      | _, _ => .error .typeMismatch

end Combine

end Lexwork
