import Lexwork.Proofs.Operator.Conservation

/-!
# Computing while building

A yard may build a tree, or it may compute with every reduction.  The two do the
same in the same order: the yard that computes holds the values of the trees in
the yard that builds, and it fails as soon as one of these trees has no value.
Reductions are scattered over the run of a yard, but their order is always the
post-order of the finished tree, so the failures are the same too.
-/

namespace Lexwork

/-- Operators over operands, whatever the operands are. -/
inductive Tree (α : Type)
  | leaf (operand : α)
  | node (operator : Value) (left right : Tree α)

namespace Tree

variable {α : Type}

def operands : Tree α → List α
  | .leaf operand => [operand]
  | .node _ left right => left.operands ++ right.operands

/--
Applies the operators to the operands in post-order: the left part, the right
part, then the operator between them.  The first failure ends it.
-/
def fold (combine : Combine α) : Tree α → Except Fault α
  | .leaf operand => .ok operand
  | .node operator left right => do
      let a ← left.fold combine
      let b ← right.fold combine
      combine operator a b

/-- The same tree of values. -/
def value : Tree Value → Value
  | .leaf operand => operand
  | .node operator left right => .node operator left.value right.value

end Tree

/--
Applies the operators of a tree to its operands in post-order, up to the first
failure.  A value that is no node stands for itself.
-/
def Value.compute (combine : Combine Value) : Value → Except Fault Value
  | .node operator left right => do
      let a ← left.compute combine
      let b ← right.compute combine
      combine operator a b
  | value => .ok value

theorem Value.IsPlain.compute {value : Value} (plain : value.IsPlain) (combine : Combine Value) :
    value.compute combine = .ok value := by
  cases value with
  | node operator left right => exact absurd rfl (plain operator left right)
  | _ => rfl

namespace Yard

section Sequences

variable {α : Type} {noTighter : Value → Value → Bool}

/-- The tree of an infix sequence behind a tree, of operands that stay apart from its nodes. -/
def treeOf (noTighter : Value → Value → Bool) (first : Tree α) (pairs : List (Value × α)) :
    Tree α :=
  nest noTighter .node first (pairs.map fun pair => (pair.1, .leaf pair.2))

theorem treeOf_descent {o o' : Value} (descends : noTighter o' o = true) (first : Tree α)
    (a a' : α) (rest : List (Value × α)) :
    treeOf noTighter first ((o, a) :: (o', a') :: rest) =
      treeOf noTighter (.node o first (.leaf a)) ((o', a') :: rest) := by
  simp only [treeOf, List.map_cons, nest, if_pos descends]

theorem treeOf_ascent {o o' : Value} (ascends : ¬ noTighter o' o = true) (first : Tree α)
    (a a' : α) (rest : List (Value × α)) :
    treeOf noTighter first ((o, a) :: (o', a') :: rest) =
      .node o first (treeOf noTighter (.leaf a) ((o', a') :: rest)) := by
  simp only [treeOf, List.map_cons, nest, if_neg ascends]

theorem operands_treeOf (first : Tree α) (pairs : List (Value × α)) :
    (treeOf noTighter first pairs).operands = first.operands ++ pairs.map Prod.snd := by
  induction pairs generalizing first with
  | nil => exact (List.append_nil _).symm
  | cons pair pairs ih =>
      obtain ⟨o, a⟩ := pair
      cases pairs with
      | nil => rfl
      | cons next rest =>
          obtain ⟨o', a'⟩ := next
          by_cases descends : noTighter o' o = true
          · rw [treeOf_descent descends, ih]
            simp [Tree.operands]
          · rw [treeOf_ascent descends, Tree.operands, ih]
            simp [Tree.operands]

theorem value_treeOf (first : Tree Value) (pairs : List (Value × Value)) :
    (treeOf noTighter first pairs).value = nest noTighter .node first.value pairs := by
  induction pairs generalizing first with
  | nil => rfl
  | cons pair pairs ih =>
      obtain ⟨o, a⟩ := pair
      cases pairs with
      | nil => rfl
      | cons next rest =>
          obtain ⟨o', a'⟩ := next
          by_cases descends : noTighter o' o = true
          · rw [treeOf_descent descends, ih, nest, if_pos descends]
            rfl
          · rw [treeOf_ascent descends, Tree.value, ih, nest, if_neg descends]
            rfl

/-- Climbing a sequence applies its operators in the post-order of its tree. -/
theorem climb_eq_fold (combine : Combine α) (first : Tree α) (pairs : List (Value × α)) :
    (first.fold combine >>= fun x => climb noTighter combine x pairs) =
      (treeOf noTighter first pairs).fold combine := by
  induction pairs generalizing first with
  | nil => exact bind_pure (first.fold combine)
  | cons pair pairs ih =>
      obtain ⟨o, a⟩ := pair
      cases pairs with
      | nil => rfl
      | cons next rest =>
          obtain ⟨o', a'⟩ := next
          by_cases descends : noTighter o' o = true
          · -- The first operator is applied before the rest is climbed.
            rw [treeOf_descent descends, ← ih, Tree.fold, bind_assoc]
            simp only [climb, if_pos descends]
            rfl
          · -- The first operator waits until the rest has a value.
            have later := ih (.leaf a)
            rw [treeOf_ascent descends, Tree.fold, ← later]
            simp only [climb, if_neg descends]
            rfl

/--
Whatever is built of an infix sequence of known operators, its operators are
applied in the post-order of the tree that is built of nodes.
-/
theorem settles_fold (table : Table) (numeric : table.Numeric) (first : Value)
    (pairs : List (Value × Value)) (known : ∀ pair ∈ pairs, table.Knows pair.1) :
    ∃ tree : Tree Value, tree.operands = first :: pairs.map Prod.snd ∧
      assemble table Combine.node first pairs {} = .ok tree.value {} ∧
      ∀ combine, Settles (assemble table combine first pairs {}) (tree.fold combine) := by
  refine ⟨treeOf table.noTighter (.leaf first) pairs, operands_treeOf _ pairs, ?_, ?_⟩
  · have settled := settles_assemble (fun o left right => .ok (.node o left right)) numeric first
      pairs known
    rw [climb_ok] at settled
    rw [value_treeOf]
    exact settled
  · intro combine
    rw [← climb_eq_fold]
    exact settles_assemble combine numeric first pairs known

end Sequences

/-! ## The yard that computes -/

section Computing

variable {α β : Type}

/-- What a function makes of a stack, bottom first, up to its first failure. -/
def mapStack (f : α → Except Fault β) : List α → Except Fault (List β)
  | [] => .ok []
  | top :: below => do
      let results ← mapStack f below
      let result ← f top
      return result :: results

/-- What an action returned and left behind, unless it failed. -/
def returned : EStateM.Result Fault α β → Except Fault (β × α)
  | .ok value state => .ok (value, state)
  | .error fault _ => .error fault

variable {table : Table} {combine : Combine Value} {yard next : Yard Value}

/-- The yard that holds the values of the trees in a yard. -/
def computed (combine : Combine Value) (yard : Yard Value) : Except Fault (Yard Value) := do
  let values ← mapStack (Value.compute combine) yard.output
  return ⟨yard.operators, values⟩

theorem computed_addOperand (tree : Value) :
    computed combine (yard.addOperand tree) =
      computed combine yard >>= fun other =>
        tree.compute combine >>= fun value => .ok (other.addOperand value) := by
  simp only [computed, addOperand, mapStack]
  cases mapStack (Value.compute combine) yard.output with
  | error fault => rfl
  | ok values =>
      cases tree.compute combine with
      | error fault => rfl
      | ok value => rfl

theorem computed_push (operator : Value) :
    computed combine (yard.push operator) =
      computed combine yard >>= fun other => .ok (other.push operator) := by
  simp only [computed, push]
  cases mapStack (Value.compute combine) yard.output with
  | error fault => rfl
  | ok values => rfl

theorem operators_of_computed {other : Yard Value} (computes : computed combine yard = .ok other) :
    other.operators = yard.operators := by
  unfold computed at computes
  cases values : mapStack (Value.compute combine) yard.output with
  | error fault =>
      rw [values] at computes
      cases computes
  | ok values =>
      rw [values] at computes
      cases computes
      rfl

/-- Where one yard builds a node, the other applies the operator. -/
theorem computed_reduce (reduced : reduce Combine.node yard = .ok () next) :
    computed combine next =
      computed combine yard >>= fun other =>
        returned (reduce combine other) >>= fun result => .ok result.2 := by
  obtain ⟨operator, pending, left, right, rest, value, rfl, built, rfl⟩ := reduce_eq_ok reduced
  cases built
  simp only [computed, mapStack, Value.compute]
  cases mapStack (Value.compute combine) rest with
  | error fault => rfl
  | ok values =>
      cases left.compute combine with
      | error fault => rfl
      | ok a =>
          cases right.compute combine with
          | error fault => rfl
          | ok b =>
              simp only [bind, Except.bind, pure, Except.pure, reduce]
              cases combine operator a b with
              | error fault => rfl
              | ok result => rfl

/-- Both yards take an operator alike, because they compare the same precedences. -/
theorem computed_addOperator {operator : Value}
    (added : addOperator table Combine.node operator yard = .ok () next) :
    computed combine next =
      computed combine yard >>= fun other =>
        returned (addOperator table combine operator other) >>= fun result => .ok result.2 := by
  cases computes : computed combine yard with
  | error fault =>
      obtain ⟨base, rfl | reduced, rfl⟩ := addOperator_eq_ok added
      · rw [computed_push, computes]
        rfl
      · rw [computed_push, computed_reduce reduced, computes]
        rfl
  | ok other =>
      have pushed : computed combine (yard.push operator) = .ok (other.push operator) := by
        rw [computed_push, computes]
        rfl
      have same := operators_of_computed computes
      unfold addOperator at added
      change _ = returned (addOperator table combine operator other) >>= fun result => .ok result.2
      unfold addOperator
      rw [same]
      split at added
      · cases added
      · cases added
      · split at added
        · cases added
          exact pushed
        · split at added
          · cases added
          · cases added
            exact pushed
          · cases reduced : reduce Combine.node yard with
            | error fault left =>
                rw [reduced] at added
                cases added
            | ok _ base =>
                rw [reduced] at added
                cases added
                rw [computed_push, computed_reduce reduced, computes]
                simp only [bind, Except.bind]
                cases reduce combine other with
                | error fault left => rfl
                | ok _ left => rfl

theorem computed_reduceTimes {count : Nat}
    (reduced : reduceTimes Combine.node count yard = .ok () next) :
    computed combine next =
      computed combine yard >>= fun other =>
        returned (reduceTimes combine count other) >>= fun result => .ok result.2 := by
  induction count generalizing yard with
  | zero =>
      cases reduced
      exact (bind_pure _).symm
  | succ count ih =>
      cases first : reduce Combine.node yard with
      | error fault left =>
          rw [reduceTimes, first] at reduced
          cases reduced
      | ok _ middle =>
          rw [reduceTimes, first] at reduced
          rw [ih reduced, computed_reduce first, bind_assoc]
          refine bind_congr fun other => ?_
          rw [reduceTimes]
          cases reduce combine other with
          | error fault left => rfl
          | ok _ left => rfl

/-- The one operand of a yard that was reduced, if it is the only one. -/
def onlyOperand (yard : Yard α) : Except Fault α :=
  match yard.output with
  | [] => .error (.parsing .emptyExpression)
  | [root] => .ok root
  | _ :: _ :: _ => .error (.parsing .severalOperands)

theorem returned_finish (combine : Combine α) (yard : Yard α) :
    (returned (finish combine yard) >>= fun result => .ok result.1) =
      returned (reduceTimes combine yard.operators.length yard) >>= fun result =>
        onlyOperand result.2 := by
  rw [finish]
  cases reduceTimes combine yard.operators.length yard with
  | error fault left => rfl
  | ok _ left =>
      rcases left with ⟨operators, _ | ⟨root, _ | ⟨next, rest⟩⟩⟩
      · rfl
      · rfl
      · rfl

/-- What a yard computes in the end is the value of its finished tree. -/
theorem computed_finish {root : Value} (finished : finish Combine.node yard = .ok root next) :
    root.compute combine =
      computed combine yard >>= fun other =>
        returned (finish combine other) >>= fun result => .ok result.1 := by
  obtain ⟨reduced, _⟩ := finish_eq_ok finished
  calc
    root.compute combine = computed combine ⟨[], [root]⟩ >>= onlyOperand := by
      simp only [computed, mapStack]
      cases root.compute combine with
      | error fault => rfl
      | ok value => rfl
    _ = (computed combine yard >>= fun other =>
          returned (reduceTimes combine yard.operators.length other) >>= fun result =>
            .ok result.2) >>= onlyOperand := by
      rw [computed_reduceTimes reduced]
    _ = computed combine yard >>= fun other =>
          returned (finish combine other) >>= fun result => .ok result.1 := by
      cases computes : computed combine yard with
      | error fault => rfl
      | ok other =>
          rw [← operators_of_computed computes]
          change (returned (reduceTimes combine other.operators.length other) >>= fun result =>
              .ok result.2) >>= onlyOperand =
            returned (finish combine other) >>= fun result => .ok result.1
          rw [returned_finish, bind_assoc]
          rfl

end Computing

end Yard

end Lexwork
