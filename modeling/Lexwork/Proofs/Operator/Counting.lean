import Lexwork.Proofs.Operator.Admission

/-!
# Counting operands and operators

Operands and operators may reach a yard in any order, and some of the operators
may be refused.  When and what the yard reduces depends on the precedences, but
every reduction takes an operator and leaves one operand in place of two.  So the
surplus of operands over operators in the yard is that of the operands over the
operators it took, and how finishing ends is decided by these two numbers alone.
-/

namespace Lexwork

namespace Yard

variable {α : Type} {table : Table} {combine : Combine α} {yard : Yard α}

/-- What is pushed on a yard. -/
inductive Item (α : Type)
  | operand (value : α)
  | operator (operator : Value)

/-- A yard with the numbers of operands and operators that it took. -/
structure Count (α : Type) where
  yard : Yard α := {}
  operands : Nat := 0
  operators : Nat := 0

namespace Count

/-- Pushes an item; an operator counts only if it is taken. -/
def push (table : Table) (combine : Combine α) (count : Count α) : Item α → Count α
  | .operand value =>
      { count with
        yard := count.yard.addOperand value
        operands := count.operands + 1 }
  | .operator operator =>
      match addOperator table combine operator count.yard with
      | .ok _ next => { count with yard := next, operators := count.operators + 1 }
      | .error _ next => { count with yard := next }

def run (table : Table) (combine : Combine α) (items : List (Item α)) : Count α :=
  items.foldl (push table combine) {}

/--
The surplus of operands is the same in the yard as among what it took, and an
operator is pending exactly if one was taken.
-/
structure Tallies (count : Count α) : Prop where
  surplus : count.yard.output.length + count.operators =
    count.yard.operators.length + count.operands
  pending : count.yard.operators = [] ↔ count.operators = 0

variable {count : Count α}

theorem Tallies.operand (tallies : count.Tallies) (value : α) :
    (count.push table combine (.operand value)).Tallies := by
  refine ⟨?_, tallies.pending⟩
  have surplus := tallies.surplus
  simp only [push, addOperand, List.length_cons]
  omega

/-- A taken operator adds one, with or without a reduction before. -/
theorem Tallies.taken (tallies : count.Tallies) {operator : Value} {next : Yard α}
    (added : addOperator table combine operator count.yard = .ok () next) :
    Tallies { count with yard := next, operators := count.operators + 1 } := by
  have surplus := tallies.surplus
  obtain ⟨base, rfl | reduced, rfl⟩ := addOperator_eq_ok added
  · refine ⟨?_, by simp [Yard.push]⟩
    simp only [Yard.push, List.length_cons]
    omega
  · obtain ⟨top, pending, left, right, rest, value, whole, _, rfl⟩ := reduce_eq_ok reduced
    refine ⟨?_, by simp [Yard.push]⟩
    simp only [whole, List.length_cons] at surplus
    simp only [Yard.push, List.length_cons]
    omega

theorem Tallies.push (total : combine.Total) (tallies : count.Tallies) (item : Item α) :
    (count.push table combine item).Tallies := by
  cases item with
  | operand value => exact tallies.operand value
  | operator operator =>
      simp only [Count.push]
      cases added : addOperator table combine operator count.yard with
      | ok _ next => exact tallies.taken added
      | error fault next =>
          rw [addOperator_eq_error total added]
          exact tallies

theorem tallies_run (table : Table) (total : combine.Total) (items : List (Item α)) :
    (run table combine items).Tallies := by
  have start : Tallies ({} : Count α) := ⟨rfl, by simp⟩
  suffices kept : ∀ count : Count α, count.Tallies →
      (items.foldl (Count.push table combine) count).Tallies from kept {} start
  induction items with
  | nil => exact fun _ tallies => tallies
  | cons item items ih => exact fun _ tallies => ih _ (tallies.push total item)

theorem yard_push_operator (count : Count α) (operator : Value) :
    (count.push table combine (.operator operator)).yard =
      yardAfter (addOperator table combine operator count.yard) := by
  rw [Count.push]
  cases addOperator table combine operator count.yard with
  | ok _ next => rfl
  | error fault next => rfl

/-- Nothing is pending that was not pushed. -/
theorem mem_items_of_run (table : Table) (combine : Combine α) (items : List (Item α)) :
    ∀ other ∈ (run table combine items).yard.operators, Item.operator other ∈ items := by
  suffices kept : ∀ count : Count α,
      ∀ other ∈ (items.foldl (Count.push table combine) count).yard.operators,
        other ∈ count.yard.operators ∨ Item.operator other ∈ items by
    exact fun other inside => (kept {} other inside).resolve_left List.not_mem_nil
  induction items with
  | nil => exact fun _ _ inside => .inl inside
  | cons item items ih =>
      intro count other inside
      rcases ih _ other inside with before | later
      · cases item with
        | operand value => exact .inl before
        | operator operator =>
            rw [yard_push_operator] at before
            rcases mem_addOperator before with earlier | ⟨rfl, _⟩
            · exact .inl earlier
            · exact .inr (List.mem_cons_self ..)
      · exact .inr (List.mem_cons_of_mem _ later)

end Count

/-- With more operands than operators, all operators are applied. -/
theorem exists_reduceTimes (total : combine.Total)
    (enough : yard.operators.length < yard.output.length) :
    ∃ output, reduceTimes combine yard.operators.length yard = .ok () ⟨[], output⟩ ∧
      output.length + yard.operators.length = yard.output.length := by
  obtain ⟨operators, output⟩ := yard
  -- The induction is on the operators: a reduction takes one, and one of the operands.
  induction operators generalizing output with
  | nil => exact ⟨output, rfl, rfl⟩
  | cons operator operators ih =>
      match output, enough with
      | right :: left :: rest, enough =>
          obtain ⟨value, built⟩ := total operator left right
          obtain ⟨left', reduced, size⟩ := ih (value :: rest) (by simpa using enough)
          refine ⟨left', ?_, ?_⟩
          · simp only [List.length_cons, reduceTimes, reduce, built]
            exact reduced
          · simp only [List.length_cons] at size ⊢
            omega

/-- With no more operands than operators, some operator misses an operand. -/
theorem reduceTimes_missing (total : combine.Total) (pending : yard.operators ≠ [])
    (few : yard.output.length ≤ yard.operators.length) :
    ∃ operator ∈ yard.operators, ∃ next : Yard α,
      reduceTimes combine yard.operators.length yard = .error (missingOperand operator) next := by
  obtain ⟨operators, output⟩ := yard
  induction operators generalizing output with
  | nil => exact absurd rfl pending
  | cons operator operators ih =>
      match output with
      | [] => exact ⟨operator, List.mem_cons_self .., _, rfl⟩
      | [_] => exact ⟨operator, List.mem_cons_self .., _, rfl⟩
      | right :: left :: rest =>
          obtain ⟨value, built⟩ := total operator left right
          have fewer : (value :: rest).length ≤ operators.length := by simpa using few
          have later : operators ≠ [] := by
            rintro rfl
            exact Nat.not_succ_le_zero _ fewer
          obtain ⟨missing, inside, next, failed⟩ := ih (value :: rest) later fewer
          refine ⟨missing, List.mem_cons_of_mem _ inside, next, ?_⟩
          simp only [List.length_cons, reduceTimes, reduce, built]
          exact failed

/-! ## Finishing -/

/-- How finishing ends after a number of operands and of operators, some of them pending. -/
inductive Ending (operands operators : Nat) (pending : List Value) :
    EStateM.Result Fault (Yard α) α → Prop
  | root (root : α) (balanced : operands = operators + 1) :
      Ending operands operators pending (.ok root {})
  | several (output : List α) (more : operators + 1 < operands)
      (left : output.length = operands - operators) :
      Ending operands operators pending (.error (.parsing .severalOperands) ⟨[], output⟩)
  | nothing (none : operands = 0 ∧ operators = 0) :
      Ending operands operators pending (.error (.parsing .emptyExpression) {})
  | shown {operator : Value} (inside : operator ∈ pending) (next : Yard α) {symbol : Text}
      (written : operator.symbol.display? = some symbol)
      (fewer : operands ≤ operators ∧ 0 < operators) :
      Ending operands operators pending (.error (.parsing (.missingOperand symbol)) next)
  | unwritten {operator : Value} (inside : operator ∈ pending) (next : Yard α)
      (unwritten : operator.symbol.display? = none)
      (fewer : operands ≤ operators ∧ 0 < operators) :
      Ending operands operators pending (.error (.badValue .tooLongToWrite) next)

namespace Ending

variable {operands operators : Nat} {pending : List Value}
  {result : EStateM.Result Fault (Yard α) α}

/-- An operator that misses an operand is named, if there is a name for it. -/
theorem missing {operator : Value} (inside : operator ∈ pending) (next : Yard α)
    (fewer : operands ≤ operators ∧ 0 < operators) :
    Ending operands operators pending (.error (missingOperand operator) next) := by
  obtain ⟨_, written, same⟩ | ⟨unwritten, same⟩ := missingOperand_eq operator
  · rw [same]
    exact .shown inside next written fewer
  · rw [same]
    exact .unwritten inside next unwritten fewer

theorem root_iff (ending : Ending operands operators pending result) :
    (∃ root next, result = .ok root next) ↔ operands = operators + 1 := by
  cases ending with
  | root root balanced => exact iff_of_true ⟨root, {}, rfl⟩ balanced
  | several | nothing | shown | unwritten => exact iff_of_false (by simp) (by omega)

theorem several_iff (ending : Ending operands operators pending result) :
    (∃ next, result = .error (.parsing .severalOperands) next) ↔ operators + 1 < operands := by
  cases ending with
  | several output more left => exact iff_of_true ⟨_, rfl⟩ more
  | root | nothing | shown | unwritten => exact iff_of_false (by simp) (by omega)

theorem nothing_iff (ending : Ending operands operators pending result) :
    (∃ next, result = .error (.parsing .emptyExpression) next) ↔
      operands = 0 ∧ operators = 0 := by
  cases ending with
  | nothing none => exact iff_of_true ⟨_, rfl⟩ none
  | root | several | shown | unwritten => exact iff_of_false (by simp) (by omega)

theorem missing_iff (ending : Ending operands operators pending result) :
    ((∃ symbol next, result = .error (.parsing (.missingOperand symbol)) next) ∨
        ∃ next, result = .error (.badValue .tooLongToWrite) next) ↔
      operands ≤ operators ∧ 0 < operators := by
  cases ending with
  | shown inside next written fewer => exact iff_of_true (.inl ⟨_, next, rfl⟩) fewer
  | unwritten inside next unwritten fewer => exact iff_of_true (.inr ⟨next, rfl⟩) fewer
  | root | several | nothing => exact iff_of_false (by simp) (by omega)

end Ending

theorem Count.Tallies.finish (total : combine.Total) {count : Count α} (tallies : count.Tallies) :
    Ending count.operands count.operators count.yard.operators
      (Yard.finish combine count.yard) := by
  have surplus := tallies.surplus
  unfold Yard.finish
  by_cases enough : count.yard.operators.length < count.yard.output.length
  · obtain ⟨output, reduced, size⟩ := exists_reduceTimes total enough
    rw [reduced]
    match output with
    | [] =>
        simp only [List.length_nil] at size
        omega
    | [root] =>
        simp only [List.length_singleton] at size
        exact .root root (by omega)
    | first :: second :: rest =>
        simp only [List.length_cons] at size
        exact .several _ (by omega) (by simp only [List.length_cons]; omega)
  · by_cases idle : count.yard.operators = []
    · have none : count.operators = 0 := tallies.pending.mp idle
      rcases whole : count.yard with ⟨operators, output⟩
      simp only [whole] at idle surplus enough ⊢
      subst idle
      obtain rfl : output = [] := List.length_eq_zero_iff.mp (by simpa using enough)
      exact .nothing ⟨by simpa [none] using surplus.symm, none⟩
    · have taken : count.operators ≠ 0 := fun none => idle (tallies.pending.mpr none)
      obtain ⟨operator, inside, next, failed⟩ := reduceTimes_missing total idle (by omega)
      rw [failed]
      exact .missing inside next ⟨by omega, by omega⟩

/--
After operands and operators were pushed in any order, finishing gives a root and
an empty yard exactly if one operand more than operators was taken.  If there are
more operands, all that the operators leave of them stay; if nothing was taken the
expression is empty; and else an operator misses an operand.  That failure shows the
symbol of one of the operators, unless this is one that has no text.
-/
theorem finish_by_counts (table : Table) (combine : Combine α) (total : combine.Total)
    (items : List (Item α)) (yard : Yard α) (operands operators : Nat)
    (reached : Count.run table combine items = ⟨yard, operands, operators⟩) :
    ((∃ root next, finish combine yard = .ok root next) ↔ operands = operators + 1) ∧
      (∀ root next, finish combine yard = .ok root next → next = {}) ∧
      ((∃ next, finish combine yard = .error (.parsing .severalOperands) next) ↔
        operators + 1 < operands) ∧
      (∀ next, finish combine yard = .error (.parsing .severalOperands) next →
        next.operators = [] ∧ next.output.length = operands - operators) ∧
      ((∃ next, finish combine yard = .error (.parsing .emptyExpression) next) ↔
        operands = 0 ∧ operators = 0) ∧
      ((∃ symbol next, finish combine yard = .error (.parsing (.missingOperand symbol)) next) ∨
          (∃ next, finish combine yard = .error (.badValue .tooLongToWrite) next) ↔
        operands ≤ operators ∧ 0 < operators) ∧
      (∀ symbol next, finish combine yard = .error (.parsing (.missingOperand symbol)) next →
        ∃ operator, Item.operator operator ∈ items ∧
          operator.symbol.display? = some symbol) ∧
      (∀ next, finish combine yard = .error (.badValue .tooLongToWrite) next →
        ∃ operator, Item.operator operator ∈ items ∧ ¬operator.symbol.HasText) ∧
      ∀ next, finish combine yard ≠ .error .outOfRange next := by
  have ending := (Count.tallies_run table total items).finish total
  have pushed := Count.mem_items_of_run table combine items
  rw [reached] at ending pushed
  dsimp only at ending pushed
  refine ⟨ending.root_iff, ?_, ending.several_iff, ?_, ending.nothing_iff, ending.missing_iff,
    ?_, ?_, ?_⟩
  · intro root next finished
    exact (finish_eq_ok finished).2
  · intro next failed
    rw [failed] at ending
    cases ending with
    | several output more left => exact ⟨rfl, left⟩
  · intro symbol next failed
    rw [failed] at ending
    cases ending with
    | shown inside _ written fewer => exact ⟨_, pushed _ inside, written⟩
  · intro next failed
    rw [failed] at ending
    cases ending with
    | unwritten inside _ unwritten fewer =>
        exact ⟨_, pushed _ inside, Value.not_hasText_iff.mpr unwritten⟩
  · intro next failed
    rw [failed] at ending
    cases ending

/-- A sum is refused while its product misses an operand, and taken once it has both. -/
theorem finish_by_counts_refused :
    Combine.node.Total ∧
      Count.run Table.arithmetic Combine.node
          [.operator "*", .operand (.int 1), .operator "+", .operand (.int 2), .operand (.int 3),
            .operator "+"] =
        ⟨⟨["+"], [.node "*" (.int 2) (.int 3), .int 1]⟩, 3, 2⟩ ∧
      ∃ root, finish Combine.node ⟨["+"], [.node "*" (.int 2) (.int 3), .int 1]⟩ = .ok root {} := by
  have reached : Count.run Table.arithmetic Combine.node
        [.operator "*", .operand (.int 1), .operator "+", .operand (.int 2), .operand (.int 3),
          .operator "+"] =
      ⟨⟨["+"], [.node "*" (.int 2) (.int 3), .int 1]⟩, 3, 2⟩ := rfl
  obtain ⟨rooted, emptied, _⟩ := finish_by_counts Table.arithmetic Combine.node Combine.node_total
    _ _ 3 2 reached
  obtain ⟨root, next, finished⟩ := rooted.mpr rfl
  obtain rfl := emptied root next finished
  exact ⟨Combine.node_total, reached, root, finished⟩

/-- An operator without an operand is not reported as such if it is too long to be written. -/
theorem finish_fails_unwritten :
    Table.unwritten.Numeric ∧ Combine.node.Total ∧
      Count.run Table.unwritten Combine.node [.operator .longInteger] =
        ⟨⟨[.longInteger], []⟩, 0, 1⟩ ∧
      finish Combine.node ⟨[.longInteger], []⟩ =
        .error (.badValue .tooLongToWrite) ⟨[.longInteger], []⟩ := by
  have taken : addOperator Table.unwritten Combine.node .longInteger {} =
      .ok () ⟨[.longInteger], []⟩ :=
    addOperator_first Table.knows_unwritten []
  have failed : missingOperand .longInteger = .badValue .tooLongToWrite :=
    Fault.eq_showing_iff.mpr (.inr ⟨Value.literal?_longInteger, rfl⟩) |>.symm
  refine ⟨Table.unwritten_numeric, Combine.node_total, ?_, ?_⟩
  · rw [Count.run, List.foldl_cons, List.foldl_nil, Count.push, taken]
  · change EStateM.Result.error (missingOperand .longInteger) _ = _
    rw [failed]

end Yard

end Lexwork
