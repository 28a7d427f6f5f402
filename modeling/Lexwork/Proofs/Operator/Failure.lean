import Lexwork.Proofs.Operator.Climbing
import Lexwork.Proofs.Value.Rendering

/-!
# Operators whose symbol has no text

An operator that misses an operand is reported with its symbol, and so is one that
is not in the table.  A symbol without a text cannot be reported: then the failure
to write it is raised, whatever was wrong with the operator.
-/

namespace Lexwork

namespace Table

def single (symbol precedence : Value) (key : symbol.isKey = true) : Table where
  entries := [(symbol, precedence)]
  keys := List.forall_mem_singleton.mpr key
  apart := List.pairwise_singleton ..

theorem lookup_single {symbol precedence : Value} (key : symbol.isKey = true)
    (reflexive : symbol.same symbol = true) :
    (single symbol precedence key).lookup symbol = .ok (some precedence) := by
  rw [lookup, if_pos key, find?, single]
  simp only [List.find?_cons, reflexive, Option.map_some]

/-- The table of a symbol that is too long to be written. -/
def unwritten : Table :=
  single .longInteger (.int 1) rfl

theorem unwritten_numeric : unwritten.Numeric :=
  List.forall_mem_singleton.mpr ⟨.int 1, rfl⟩

theorem lookup_unwritten : unwritten.lookup .longInteger = .ok (some (.int 1)) :=
  lookup_single rfl (Value.same_int _)

theorem knows_unwritten : unwritten.Knows .longInteger :=
  ⟨.int 1, lookup_unwritten⟩

end Table

namespace Yard

theorem missingOperand_eq (operator : Value) :
    (∃ shown, operator.symbol.display? = some shown ∧
      missingOperand operator = .parsing (.missingOperand shown)) ∨
    operator.symbol.display? = none ∧ missingOperand operator = .badValue .tooLongToWrite :=
  Fault.eq_showing_iff.mp rfl

/-- An operator that is not in the table is unexpected, if its symbol has a text. -/
theorem unknownOperator_eq (operator : Value) :
    (operator.symbol.HasText ∧ ∃ found, unknownOperator operator = .unexpected found) ∨
    ¬operator.symbol.HasText ∧ unknownOperator operator = .badValue .tooLongToWrite := by
  by_cases written : operator.symbol.HasText
  · refine .inl ⟨written, ?_⟩
    obtain ⟨literal, asLiteral⟩ :=
      Option.isSome_iff_exists.mp ((Value.hasText_iff_literal? _).mp written)
    obtain ⟨shown, displayed⟩ := written
    simp only [unknownOperator, displayed, asLiteral, Fault.showing]
    cases operator with
    | token content type line character =>
        change content.display? = some shown at displayed
        simp only [Unexpected.raise, Unexpected.report, displayed, Unexpected.wording?]
        exact ⟨_, rfl⟩
    | _ => exact ⟨_, rfl⟩
  · refine .inr ⟨written, ?_⟩
    have unwritten : operator.symbol.display? = none :=
      Option.eq_none_iff_forall_ne_some.mpr fun shown displayed => written ⟨shown, displayed⟩
    simp only [unknownOperator, unwritten, Fault.showing]

end Yard

end Lexwork
