import Lexwork.Proofs.Operator.Climbing

/-!
# Balanced yards

Between the operators of an expression a yard holds one operand more than
operators; after an operator it holds as many of both.  A balanced yard whose
operators are all known never misses an operand, so every known operator can be
added and the yard can be finished.
-/

namespace Lexwork

/-- Whatever the operands, applying an operator does not fail. -/
def Combine.Total {α : Type} (combine : Combine α) : Prop :=
  ∀ operator left right, ∃ value, combine operator left right = .ok value

theorem Combine.node_total : Combine.node.Total :=
  fun operator left right => ⟨.node operator left right, rfl⟩

namespace Yard

variable {α : Type}

/-- A yard of known operators with a given surplus of operands. -/
structure Balanced (table : Table) (surplus : Nat) (yard : Yard α) : Prop where
  size : yard.output.length = yard.operators.length + surplus
  known : ∀ operator ∈ yard.operators, table.Knows operator

variable {table : Table} {combine : Combine α} {yard : Yard α}

theorem balanced_empty (table : Table) : Balanced table 0 ({} : Yard α) :=
  ⟨rfl, fun _ inside => absurd inside List.not_mem_nil⟩

theorem Balanced.addOperand {surplus : Nat} (balanced : Balanced table surplus yard) (value : α) :
    Balanced table (surplus + 1) (yard.addOperand value) := by
  refine ⟨?_, balanced.known⟩
  have size := balanced.size
  simp only [Yard.addOperand, List.length_cons]
  omega

theorem Balanced.push {surplus : Nat} (balanced : Balanced table (surplus + 1) yard)
    {operator : Value} (known : table.Knows operator) :
    Balanced table surplus (yard.push operator) := by
  constructor
  · have size := balanced.size
    simp only [Yard.push, List.length_cons]
    omega
  · intro other inside
    rcases List.mem_cons.mp inside with rfl | inYard
    · exact known
    · exact balanced.known other inYard

theorem Balanced.reduce (total : combine.Total) (balanced : Balanced table 1 yard)
    (pending : yard.operators ≠ []) :
    ∃ next, Yard.reduce combine yard = .ok () next ∧ Balanced table 1 next ∧
      next.operators.length + 1 = yard.operators.length := by
  obtain ⟨operators, output⟩ := yard
  have size := balanced.size
  have known := balanced.known
  cases operators with
  | nil => exact absurd rfl pending
  | cons operator operators =>
      match output, size with
      | right :: left :: output, size =>
          obtain ⟨value, built⟩ := total operator left right
          refine ⟨⟨operators, value :: output⟩, ?_, ⟨?_, ?_⟩, rfl⟩
          · simp only [Yard.reduce, built]
          · simp only [List.length_cons] at size ⊢
            omega
          · intro other inside
            exact known other (List.mem_cons_of_mem _ inside)

theorem Balanced.addOperator (numeric : table.Numeric) (total : combine.Total)
    (balanced : Balanced table 1 yard) {operator : Value} (known : table.Knows operator) :
    ∃ next, Yard.addOperator table combine operator yard = .ok () next ∧
      Balanced table 0 next := by
  obtain ⟨precedence, found⟩ := known
  have known : table.Knows operator := ⟨precedence, found⟩
  simp only [Yard.addOperator, found]
  cases operators : yard.operators with
  | nil => exact ⟨yard.push operator, rfl, balanced.push known⟩
  | cons top pending =>
      have knownTop : table.Knows top := balanced.known top (by simp [operators])
      simp only [numeric.yields found knownTop]
      cases table.noTighter operator top with
      | false => exact ⟨yard.push operator, rfl, balanced.push known⟩
      | true =>
          obtain ⟨next, reduced, kept, _⟩ := balanced.reduce total (by simp [operators])
          simp only [reduced]
          exact ⟨next.push operator, rfl, kept.push known⟩

theorem addOperator_unknown {operator : Value} (key : operator.symbol.isKey = true)
    (unknown : ¬table.Knows operator) :
    Yard.addOperator table combine operator yard = .error (unknownOperator operator) yard := by
  simp only [Yard.addOperator, Table.lookup_of_not_knows key unknown]

theorem Balanced.reduceTimes (total : combine.Total) (balanced : Balanced table 1 yard) :
    ∃ value, Yard.reduceTimes combine yard.operators.length yard = .ok () ⟨[], [value]⟩ := by
  generalize counted : yard.operators.length = count
  induction count generalizing yard with
  | zero =>
      obtain ⟨operators, output⟩ := yard
      have empty : operators = [] := List.length_eq_zero_iff.mp counted
      subst empty
      have size := balanced.size
      obtain ⟨value, rfl⟩ := List.length_eq_one_iff.mp size
      exact ⟨value, rfl⟩
  | succ count ih =>
      have pending : yard.operators ≠ [] := by
        intro empty
        simp [empty] at counted
      obtain ⟨next, reduced, kept, shorter⟩ := balanced.reduce total pending
      obtain ⟨value, rest⟩ := ih kept (by omega)
      refine ⟨value, ?_⟩
      simp only [Yard.reduceTimes, reduced]
      exact rest

theorem Balanced.finish (total : combine.Total) (balanced : Balanced table 1 yard) :
    ∃ root, Yard.finish combine yard = .ok root {} := by
  obtain ⟨value, reduced⟩ := balanced.reduceTimes total
  refine ⟨value, ?_⟩
  simp only [Yard.finish, reduced]

end Yard

end Lexwork
