import Lexwork.Proofs.Operator.Balance

/-!
# What a yard keeps

A caller may ask anything of a yard in any order, and may go on after a failure.
Whatever was asked, the yard still holds every operand that it was given, in the
order in which they came, and every operator that it took, pending or as a node
of a tree.  Finishing hands all of them over in one tree and starts anew.
-/

namespace Lexwork

namespace Value

/-- The operands of a tree from left to right; a value that is no node is an operand. -/
def leaves : Value → List Value
  | .node _ left right => left.leaves ++ right.leaves
  | value => [value]

def nodeOperators : Value → List Value
  | .node operator left right => operator :: (left.nodeOperators ++ right.nodeOperators)
  | _ => []

def IsPlain (value : Value) : Prop :=
  ∀ operator left right, value ≠ .node operator left right

theorem IsPlain.leaves {value : Value} (plain : value.IsPlain) : value.leaves = [value] := by
  cases value with
  | node operator left right => exact absurd rfl (plain operator left right)
  | _ => rfl

theorem IsPlain.nodeOperators {value : Value} (plain : value.IsPlain) :
    value.nodeOperators = [] := by
  cases value with
  | node operator left right => exact absurd rfl (plain operator left right)
  | _ => rfl

end Value

namespace Yard

section Actions

variable {α β : Type} {table : Table} {combine : Combine α} {yard next : Yard α}
  {operator : Value} {fault : Fault} {root : α}

/-- The yard that an action leaves behind, whether it failed or not. -/
def yardAfter : EStateM.Result Fault (Yard α) β → Yard α
  | .ok _ after => after
  | .error _ after => after

theorem reduce_eq_ok (reduced : reduce combine yard = .ok () next) :
    ∃ operator pending left right rest value,
      yard = ⟨operator :: pending, right :: left :: rest⟩ ∧
        combine operator left right = .ok value ∧ next = ⟨pending, value :: rest⟩ := by
  obtain ⟨operators, output⟩ := yard
  unfold reduce at reduced
  match operators, output with
  | [], _ => cases reduced
  | _ :: _, [] => cases reduced
  | _ :: _, [_] => cases reduced
  | operator :: pending, right :: left :: rest =>
      cases built : combine operator left right with
      | error fault =>
          simp only [built] at reduced
          cases reduced
      | ok value =>
          simp only [built] at reduced
          cases reduced
          exact ⟨operator, pending, left, right, rest, value, rfl, built, rfl⟩

/-- If applying an operator cannot fail, a reduction that fails changes nothing. -/
theorem reduce_eq_error (total : combine.Total) (failed : reduce combine yard = .error fault next) :
    next = yard := by
  obtain ⟨operators, output⟩ := yard
  unfold reduce at failed
  match operators, output with
  | [], _ => cases failed; rfl
  | _ :: _, [] => cases failed; rfl
  | _ :: _, [_] => cases failed; rfl
  | operator :: pending, right :: left :: rest =>
      obtain ⟨value, built⟩ := total operator left right
      simp only [built] at failed
      cases failed

/-- An operator is taken as it is, or after one reduction. -/
theorem addOperator_eq_ok (added : addOperator table combine operator yard = .ok () next) :
    ∃ base, (base = yard ∨ reduce combine yard = .ok () base) ∧ next = base.push operator := by
  unfold addOperator at added
  split at added
  · cases added
  · cases added
  · split at added
    · cases added
      exact ⟨yard, .inl rfl, rfl⟩
    · split at added
      · cases added
      · cases added
        exact ⟨yard, .inl rfl, rfl⟩
      · cases reduced : reduce combine yard with
        | error fault left =>
            simp only [reduced] at added
            cases added
        | ok _ base =>
            simp only [reduced] at added
            cases added
            exact ⟨base, .inr rfl, rfl⟩

/-- If applying an operator cannot fail, a refused operator changes nothing. -/
theorem addOperator_eq_error (total : combine.Total)
    (refused : addOperator table combine operator yard = .error fault next) : next = yard := by
  unfold addOperator at refused
  split at refused
  · cases refused; rfl
  · cases refused; rfl
  · split at refused
    · cases refused
    · split at refused
      · cases refused; rfl
      · cases refused
      · cases reduced : reduce combine yard with
        | error fault left =>
            simp only [reduced] at refused
            cases refused
            exact reduce_eq_error total reduced
        | ok _ base =>
            simp only [reduced] at refused
            cases refused

/-- What every successful reduction keeps is kept by any number of them, failed or not. -/
theorem keeps_reduceTimes (total : combine.Total) {holds : Yard α → Prop}
    (keeps : ∀ yard next, holds yard → reduce combine yard = .ok () next → holds next)
    (count : Nat) (before : holds yard) : holds (yardAfter (reduceTimes combine count yard)) := by
  induction count generalizing yard with
  | zero => exact before
  | succ count ih =>
      cases reduced : reduce combine yard with
      | error fault left =>
          have unchanged := reduce_eq_error total reduced
          simp only [reduceTimes, reduced, yardAfter, unchanged]
          exact before
      | ok _ next =>
          simp only [reduceTimes, reduced]
          exact ih (keeps yard next before reduced)

/-- Reductions that succeed take one operator each. -/
theorem length_of_reduceTimes {count : Nat}
    (reduced : reduceTimes combine count yard = .ok () next) :
    next.operators.length + count = yard.operators.length := by
  induction count generalizing yard with
  | zero =>
      cases reduced
      rfl
  | succ count ih =>
      cases first : reduce combine yard with
      | error fault left =>
          simp only [reduceTimes, first] at reduced
          cases reduced
      | ok _ middle =>
          simp only [reduceTimes, first] at reduced
          obtain ⟨operator, pending, left, right, rest, value, rfl, _, rfl⟩ := reduce_eq_ok first
          have shorter := ih reduced
          simp only [List.length_cons] at shorter ⊢
          omega

/-- A yard that is finished was reduced to its root, and nothing is left in it. -/
theorem finish_eq_ok (finished : finish combine yard = .ok root next) :
    reduceTimes combine yard.operators.length yard = .ok () ⟨[], [root]⟩ ∧ next = {} := by
  unfold finish at finished
  cases reduced : reduceTimes combine yard.operators.length yard with
  | error fault left =>
      simp only [reduced] at finished
      cases finished
  | ok _ middle =>
      have emptied := length_of_reduceTimes reduced
      obtain ⟨operators, output⟩ := middle
      have none : operators = [] := List.length_eq_zero_iff.mp (by simpa using emptied)
      subst none
      simp only [reduced] at finished
      match output with
      | [] => cases finished
      | _ :: _ :: _ => cases finished
      | [_] =>
          cases finished
          exact ⟨rfl, rfl⟩

/-- A yard that cannot be finished is left as its reductions left it. -/
theorem finish_eq_error (failed : finish combine yard = .error fault next) :
    next = yardAfter (reduceTimes combine yard.operators.length yard) := by
  unfold finish at failed
  cases reduced : reduceTimes combine yard.operators.length yard with
  | error fault left =>
      simp only [reduced] at failed
      cases failed
      rfl
  | ok _ middle =>
      simp only [reduced] at failed
      split at failed
      · cases failed
        rfl
      · cases failed
      · cases failed
        rfl

end Actions

/-! ## Sessions -/

/-- What a caller may ask of a yard. -/
inductive Call
  | operand (value : Value)
  | operator (value : Value)
  | precedence (value : Value)
  | reduce
  | finish

/-- Carries out a call on a yard of trees, with what the call returns. -/
def Call.perform (table : Table) : Call → Action Value Value
  | .operand value => do
      modify (·.addOperand value)
      return .none
  | .operator value => do
      addOperator table Combine.node value
      return .none
  | .precedence value => fun yard =>
      match table.precedence value with
      | .ok found => .ok found yard
      | .error fault => .error fault yard
  | .reduce => do
      Yard.reduce Combine.node
      return .none
  | .finish => Yard.finish Combine.node

/-- The operands and operators that a yard took since it was last finished, in order. -/
structure Ledger where
  operands : List Value := []
  operators : List Value := []

/-- The ledger after a call that succeeded. -/
def Ledger.enter (ledger : Ledger) : Call → Ledger
  | .operand value => { ledger with operands := ledger.operands ++ [value] }
  | .operator operator => { ledger with operators := ledger.operators ++ [operator] }
  | .precedence _ => ledger
  | .reduce => ledger
  | .finish => {}

/-- A yard together with the ledger of what it took. -/
structure Session where
  yard : Yard Value := {}
  ledger : Ledger := {}

def Session.step (table : Table) (session : Session) (call : Call) : Session :=
  match call.perform table session.yard with
  | .ok _ next => ⟨next, session.ledger.enter call⟩
  | .error _ next => ⟨next, session.ledger⟩

/-- The session after calls in order, from an empty yard on. -/
def Session.run (table : Table) (calls : List Call) : Session :=
  calls.foldl (Session.step table) {}

def heldOperands (yard : Yard Value) : List Value :=
  yard.output.reverse.flatMap Value.leaves

/-- The pending operators and those of all trees in a yard. -/
def heldOperators (yard : Yard Value) : List Value :=
  yard.operators ++ yard.output.flatMap Value.nodeOperators

/-- A yard holds exactly what a ledger records. -/
structure Holds (ledger : Ledger) (yard : Yard Value) : Prop where
  operands : yard.heldOperands = ledger.operands
  operators : yard.heldOperators.Perm ledger.operators

variable {table : Table} {ledger : Ledger} {yard next : Yard Value} {fault : Fault} {root : Value}

theorem Holds.addOperand (holds : Holds ledger yard) {value : Value} (plain : value.IsPlain) :
    Holds (ledger.enter (.operand value)) (yard.addOperand value) := by
  constructor
  · have operands := holds.operands
    simp only [heldOperands] at operands
    simp only [heldOperands, Yard.addOperand, Ledger.enter, List.reverse_cons, List.flatMap_append,
      operands, List.flatMap_cons, List.flatMap_nil, plain.leaves, List.append_nil]
  · simpa only [heldOperators, Yard.addOperand, Ledger.enter, List.flatMap_cons,
      plain.nodeOperators, List.nil_append] using holds.operators

theorem Holds.push (holds : Holds ledger yard) (operator : Value) :
    Holds (ledger.enter (.operator operator)) (yard.push operator) := by
  refine ⟨holds.operands, ?_⟩
  have more : (operator :: yard.heldOperators).Perm (operator :: ledger.operators) :=
    holds.operators.cons operator
  exact more.trans (List.perm_append_singleton operator ledger.operators).symm

theorem Holds.reduce (holds : Holds ledger yard)
    (reduced : Yard.reduce Combine.node yard = .ok () next) : Holds ledger next := by
  obtain ⟨operator, pending, left, right, rest, value, rfl, built, rfl⟩ := reduce_eq_ok reduced
  cases built
  constructor
  · rw [← holds.operands]
    simp [heldOperands, Value.leaves]
  · refine List.Perm.trans ?_ holds.operators
    -- The operator moves over the pending ones, and the two trees change places.
    have moved : (pending ++ operator :: (left.nodeOperators ++ right.nodeOperators)).Perm
        (operator :: (pending ++ (right.nodeOperators ++ left.nodeOperators))) :=
      List.perm_middle.trans ((List.perm_append_comm.append_left pending).cons operator)
    simpa [heldOperators, Value.nodeOperators] using
      moved.append_right (rest.flatMap Value.nodeOperators)

theorem Holds.addOperator (holds : Holds ledger yard) {operator : Value}
    (added : Yard.addOperator table Combine.node operator yard = .ok () next) :
    Holds (ledger.enter (.operator operator)) next := by
  obtain ⟨base, rfl | reduced, rfl⟩ := addOperator_eq_ok added
  · exact holds.push operator
  · exact (holds.reduce reduced).push operator

theorem Holds.reduceTimes (holds : Holds ledger yard) (count : Nat) :
    Holds ledger (yardAfter (Yard.reduceTimes Combine.node count yard)) :=
  keeps_reduceTimes Combine.node_total (fun _ _ held reduced => held.reduce reduced) count holds

theorem Holds.finish (holds : Holds ledger yard)
    (finished : Yard.finish Combine.node yard = .ok root next) :
    root.leaves = ledger.operands ∧ root.nodeOperators.Perm ledger.operators ∧ next = {} := by
  obtain ⟨reduced, emptied⟩ := finish_eq_ok finished
  have kept := holds.reduceTimes yard.operators.length
  rw [reduced] at kept
  obtain ⟨operands, operators⟩ := kept
  refine ⟨?_, ?_, emptied⟩
  · simpa [heldOperands, yardAfter] using operands
  · simpa [heldOperators, yardAfter] using operators

theorem holds_empty : Holds {} {} :=
  ⟨rfl, .refl _⟩

/-- Every call keeps yard and ledger in step, whether it fails or not. -/
theorem Holds.step {session : Session} {call : Call} (holds : Holds session.ledger session.yard)
    (plain : ∀ value, call = .operand value → value.IsPlain) :
    Holds (session.step table call).ledger (session.step table call).yard := by
  cases call with
  | operand value => exact holds.addOperand (plain value rfl)
  | operator operator =>
      simp only [Session.step, Call.perform, bind, EStateM.bind]
      cases added : Yard.addOperator table Combine.node operator session.yard with
      | ok _ next => exact holds.addOperator added
      | error fault next =>
          rw [addOperator_eq_error Combine.node_total added]
          exact holds
  | precedence operator =>
      simp only [Session.step, Call.perform]
      cases table.precedence operator with
      | ok precedence => exact holds
      | error fault => exact holds
  | reduce =>
      simp only [Session.step, Call.perform, bind, EStateM.bind]
      cases reduced : Yard.reduce Combine.node session.yard with
      | ok _ next => exact holds.reduce reduced
      | error fault next =>
          rw [reduce_eq_error Combine.node_total reduced]
          exact holds
  | finish =>
      simp only [Session.step, Call.perform]
      cases finished : Yard.finish Combine.node session.yard with
      | ok root next =>
          obtain ⟨_, _, emptied⟩ := holds.finish finished
          rw [emptied]
          exact holds_empty
      | error fault next =>
          rw [finish_eq_error finished]
          exact holds.reduceTimes session.yard.operators.length

/-- Whatever is asked, a yard holds what its ledger records. -/
theorem holds_run (table : Table) (calls : List Call)
    (plain : ∀ value, .operand value ∈ calls → value.IsPlain) :
    Holds (Session.run table calls).ledger (Session.run table calls).yard := by
  suffices kept : ∀ session : Session, Holds session.ledger session.yard →
      Holds (calls.foldl (Session.step table) session).ledger
        (calls.foldl (Session.step table) session).yard from kept {} holds_empty
  induction calls with
  | nil => exact fun _ holds => holds
  | cons call calls ih =>
      intro session holds
      have later : ∀ value, .operand value ∈ calls → value.IsPlain :=
        fun value inside => plain value (List.mem_cons_of_mem _ inside)
      have first : ∀ value, call = .operand value → value.IsPlain := by
        rintro value rfl
        exact plain value (List.mem_cons_self ..)
      exact ih later _ (holds.step first)

/--
After any calls, failed ones included, the operands in a yard are those it was
given since it was last finished, in order, and its operators, pending or in
trees, are those it took since then.  Finishing it hands over one tree of exactly
these and leaves nothing behind.
-/
theorem run_conserves (table : Table) (calls : List Call)
    (plain : ∀ value, .operand value ∈ calls → value.IsPlain) (yard : Yard Value)
    (ledger : Ledger) (reached : Session.run table calls = ⟨yard, ledger⟩) :
    yard.output.reverse.flatMap Value.leaves = ledger.operands ∧
      (yard.operators ++ yard.output.flatMap Value.nodeOperators).Perm ledger.operators ∧
      ∀ root next, Yard.finish Combine.node yard = .ok root next →
        root.leaves = ledger.operands ∧ root.nodeOperators.Perm ledger.operators ∧
          next.operators = [] ∧ next.output = [] := by
  have holds := holds_run table calls plain
  rw [reached] at holds
  refine ⟨holds.operands, holds.operators, ?_⟩
  intro root next finished
  obtain ⟨leaves, operators, rfl⟩ := holds.finish finished
  exact ⟨leaves, operators, rfl, rfl⟩

theorem run_conserves_unfinished :
    Session.run Table.arithmetic
        [.operand (.int 1), .finish, .operand (.int 2), .operator "*", .operator "%",
          .operand (.int 3), .operator "+", .finish] =
      ⟨⟨["+"], [.node "*" (.int 2) (.int 3)]⟩, ⟨[.int 2, .int 3], ["*", "+"]⟩⟩ ∧
    [Value.node "*" (.int 2) (.int 3)].reverse.flatMap Value.leaves = [.int 2, .int 3] ∧
    ([("+" : Value)] ++ [Value.node "*" (.int 2) (.int 3)].flatMap Value.nodeOperators).Perm
      ["*", "+"] := by
  have reached : Session.run Table.arithmetic
        [.operand (.int 1), .finish, .operand (.int 2), .operator "*", .operator "%",
          .operand (.int 3), .operator "+", .finish] =
      ⟨⟨["+"], [.node "*" (.int 2) (.int 3)]⟩, ⟨[.int 2, .int 3], ["*", "+"]⟩⟩ := rfl
  obtain ⟨operands, operators, _⟩ := run_conserves Table.arithmetic _ (by
    intro value inside operator left right same
    simp [same] at inside) _ _ reached
  exact ⟨reached, operands, operators⟩

end Yard

end Lexwork
