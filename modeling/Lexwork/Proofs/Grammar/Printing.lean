import Lexwork.Proofs.Grammar.CalculatorLexer
import Lexwork.Proofs.Grammar.Parentheses

/-!
# Printing and parsing

A formula is printed with parentheses and blanks around every operation.  The
lexer cuts the printed text into the pieces that it was put together from,
wherever the text stands: a minus sign before a digit is part of an integer and
one before a blank is an operator.  From the tokens the calculator builds the
formula again, whatever the precedences are.
-/

namespace Lexwork

namespace Grammar

namespace Calculator

open Lexer
open Standard (blankPiece integerPiece)

inductive Operation
  | add
  | subtract
  | multiply
  | divide
  deriving DecidableEq, Repr

def Operation.symbol : Operation → Char
  | .add => '+'
  | .subtract => '-'
  | .multiply => '*'
  | .divide => '/'

/-- Operations on integers, none of which has more digits than can be read. -/
inductive Formula
  | integer (n : Int) (short : (Text.ofNat n.natAbs).length ≤ integerDigitLimit)
  | apply (operation : Operation) (left right : Formula)

namespace Formula

/-- The text of a formula: an integer in decimal, or an operation in parentheses. -/
def print : Formula → Text
  | .integer n _ => Text.ofInt n
  | .apply operation left right =>
      "(" ++ left.print ++ " " ++ [operation.symbol] ++ " " ++ right.print ++ ")"

/-- The lists of a formula: the symbol of an operation and its two operands. -/
def toValue : Formula → Value
  | .integer n _ => .int n
  | .apply operation left right =>
      .list [.str [operation.symbol], left.toValue, right.toValue]

/-- The pieces that the text of a formula is put together from. -/
def pieces : Formula → List Piece
  | .integer n _ => [integerPiece n]
  | .apply operation left right =>
      openingPiece :: (left.pieces ++ blankPiece :: operatorPiece operation.symbol :: blankPiece ::
        (right.pieces ++ [closingPiece]))

theorem textOf_pieces (formula : Formula) : textOf formula.pieces = formula.print := by
  induction formula with
  | integer n short => exact List.append_nil _
  | apply operation left right ihLeft ihRight =>
      simp only [pieces, print, textOf_cons, textOf_append, ihLeft, ihRight, List.append_assoc]
      rfl

theorem solid_print (formula : Formula) (behind : Text) :
    (formula.print ++ behind).takeWhile Standard.blankSet.accepts = [] := by
  cases formula with
  | integer n short => exact Standard.solid_ofInt n behind
  | apply operation left right => rfl

/-- A printed formula is cut into its pieces if no digit follows it. -/
theorem takesAll_pieces (formula : Formula) {behind : Text}
    (ends : ∀ c ∈ behind.head?, c.isDigit = false) :
    TakesAll definitions formula.pieces behind := by
  induction formula generalizing behind with
  | integer n short =>
      have first := integer_comesFirst (Standard.solid_ofInt n behind)
      exact ⟨Standard.takes_integerPiece first short ends, trivial⟩
  | apply operation left right ihLeft ihRight =>
      have closing : TakesAll definitions [closingPiece] behind := ⟨takes_closingPiece, trivial⟩
      have second : TakesAll definitions (right.pieces ++ [closingPiece]) behind := by
        refine takesAll_append (ihRight ?_) closing
        rintro c ⟨⟩
        rfl
      have solid : (textOf (right.pieces ++ [closingPiece]) ++ behind).takeWhile
          Standard.blankSet.accepts = [] := by
        rw [textOf_append, textOf_pieces, List.append_assoc]
        exact right.solid_print _
      have middle : TakesAll definitions
          (blankPiece :: operatorPiece operation.symbol :: blankPiece ::
            (right.pieces ++ [closingPiece])) behind := by
        refine ⟨Standard.takes_blankPiece blank_comesFirst ?_, takes_operatorPiece ?_ ?_,
          Standard.takes_blankPiece blank_comesFirst solid, second⟩
        · cases operation <;> rfl
        · cases operation <;> decide
        -- A blank follows the operator, so that not even a minus sign starts an integer.
        · cases operation <;> rfl
      refine ⟨takes_openingPiece, takesAll_append (ihLeft ?_) middle⟩
      rintro c ⟨⟩
      rfl

/-- The tokens of a printed formula spell its lists. -/
theorem spells_pieces {table : Table}
    (known : ∀ operation : Operation, table.Knows (.str [operation.symbol])) (formula : Formula)
    (tracker : Tracker) :
    Spells table Combine.list ((tokensFrom tracker formula.pieces).map Token.toValue)
      formula.toValue := by
  induction formula generalizing tracker with
  | integer n short => exact .integer (.int n) _ _
  | apply operation left right ihLeft ihRight =>
      have applied (line character : Nat) : IsOperator table
          (Token.toValue ⟨.str [operation.symbol], "operator", line, character⟩) :=
        ⟨⟨_, _, _, rfl⟩, known operation⟩
      simp only [pieces, tokensFrom, tokensFrom_append, List.map_append]
      exact .group ⟨_, _, _, rfl⟩ (ihLeft _) (applied _ _) (ihRight _) ⟨_, _, _, rfl⟩ rfl

end Formula

/-- The calculator builds from a printed formula exactly the lists of the formula. -/
theorem evaluate_print (table : Table)
    (known : ∀ operation : Operation, table.Knows (.str [operation.symbol])) (formula : Formula) :
    evaluate table Combine.list (.str formula.print) = .ok formula.toValue := by
  have taken : TakesAll definitions formula.pieces [] :=
    formula.takesAll_pieces fun _ first => nomatch first
  have cut := tokens_textOf taken
  rw [formula.textOf_pieces] at cut
  exact evaluate_of_spells cut (formula.spells_pieces known {})

theorem evaluate_print_arithmetic :
    (∀ operation : Operation, Table.arithmetic.Knows (.str [operation.symbol])) ∧
      evaluate Table.arithmetic Combine.list "(-3 - (4 * -15))" =
        .ok (.list ["-", .int (-3), .list ["*", .int 4, .int (-15)]]) := by
  have known (operation : Operation) : Table.arithmetic.Knows (.str [operation.symbol]) := by
    cases operation with
    | add => exact ⟨.int 1, rfl⟩
    | subtract => exact ⟨.int 1, rfl⟩
    | multiply => exact ⟨.int 2, rfl⟩
    | divide => exact ⟨.int 2, rfl⟩
  have built := evaluate_print Table.arithmetic known
    (.apply .subtract (.integer (-3) (by decide))
      (.apply .multiply (.integer 4 (by decide)) (.integer (-15) (by decide))))
  exact ⟨known, built⟩

end Calculator

end Grammar

end Lexwork
