import Lexwork.Proofs.Operator.Balance
import Mathlib.Data.List.Chain

/-!
# Finishing too early

A yard that was fed all of an infix sequence but its last operand cannot be
finished.  If no operator binds tighter than the one before it, only the last one
is pending: finishing fails at once and changes nothing, so that the sequence can
be completed and finished as if nothing had happened.  After any ascent several
operators are pending.  Finishing then applies all of them but the lowest before
it misses an operand, each to operands that belong to another one, and the tree of
the completed sequence is lost.
-/

namespace Lexwork

theorem Value.ne_node_left (operator left right : Value) : left ≠ .node operator left right := by
  intro same
  have size := congrArg sizeOf same
  simp only [Value.node.sizeOf_spec] at size
  omega

namespace Yard

variable {α : Type} {table : Table} {combine : Combine α} {waiting next : Yard α}

/-- No operator binds tighter than the one before it. -/
def NeverAscends (table : Table) (operators : List Value) : Prop :=
  operators.IsChain fun first second => table.noTighter second first = true

/-- Feeds an infix sequence up to its last operator. -/
def lead (table : Table) (combine : Combine α) (first : α) (pairs : List (Value × α))
    (last : Value) : Action α Unit := do
  modify (·.addOperand first)
  feed table combine pairs
  addOperator table combine last

/-- A yard whose top operator waits for its right operand, over suspended ones. -/
def awaiting (suspended : List (Value × α)) (operator : Value) (left : α) : Yard α :=
  ⟨operator :: suspended.map Prod.fst, left :: suspended.map Prod.snd⟩

theorem addOperand_awaiting (suspended : List (Value × α)) (operator : Value) (left right : α) :
    (awaiting suspended operator left).addOperand right = pending suspended operator left right :=
  rfl

theorem feed_append (first second : List (Value × α)) :
    feed table combine (first ++ second) =
      feed table combine first >>= fun _ => feed table combine second := by
  induction first with
  | nil => rfl
  | cons pair first ih =>
      obtain ⟨operator, operand⟩ := pair
      rw [List.cons_append, feed, ih, feed]
      simp only [bind_assoc]

/-- The last operand is fed to what a sequence up to its last operator leaves. -/
theorem assemble_concat {first : α} {pairs : List (Value × α)} {last : Value}
    (pushed : lead table combine first pairs last {} = .ok () waiting) (operand : α) :
    assemble table combine first (pairs ++ [(last, operand)]) {} =
      finish combine (waiting.addOperand operand) := by
  have split : assemble table combine first (pairs ++ [(last, operand)]) =
      lead table combine first pairs last >>= fun _ =>
        modify (·.addOperand operand) >>= fun _ => finish combine := by
    rw [assemble, feed_append, lead]
    simp only [feed, bind_assoc, pure_bind]
  rw [split]
  simp only [bind, EStateM.bind, pushed]
  rfl

/-- An added operator waits for its operand; one that binds tighter suspends the top one. -/
theorem awaiting_of_addOperator (numeric : table.Numeric) {operator top : Value}
    (known : table.Knows operator) (knownTop : table.Knows top) {suspended : List (Value × α)}
    {left right : α}
    (added : addOperator table combine operator (pending suspended top left right) =
      .ok () next) :
    ∃ below operand, next = awaiting below operator operand ∧
      (below = [] ↔ suspended = [] ∧ table.noTighter operator top = true) := by
  rw [addOperator_pending numeric known knownTop] at added
  cases collapses : table.noTighter operator top with
  | true =>
      rw [if_pos collapses] at added
      cases built : combine top left right with
      | error fault =>
          rw [built] at added
          cases added
      | ok value =>
          rw [built] at added
          cases added
          exact ⟨suspended, value, rfl, by simp⟩
  | false =>
      rw [if_neg (by simp [collapses])] at added
      cases added
      exact ⟨(top, left) :: suspended, right, rfl, by simp⟩

/-- What waits below the last operator is suspended by an ascent, here or before. -/
theorem awaiting_of_feed (numeric : table.Numeric) {suspended : List (Value × α)} {top : Value}
    {left right : α} {pairs : List (Value × α)} {last : Value}
    (known : ∀ operator ∈ top :: (pairs.map Prod.fst ++ [last]), table.Knows operator)
    (pushed : (feed table combine pairs >>= fun _ => addOperator table combine last)
      (pending suspended top left right) = .ok () waiting) :
    ∃ below operand, waiting = awaiting below last operand ∧
      (below = [] ↔ suspended = [] ∧
        NeverAscends table (top :: (pairs.map Prod.fst ++ [last]))) := by
  have knownTop : table.Knows top := known top (List.mem_cons_self ..)
  -- An operator applies at most the top one, so what an ascent suspends stays suspended.
  induction pairs generalizing suspended top left right with
  | nil =>
      have knownLast : table.Knows last := known last (by simp)
      obtain ⟨below, operand, shape, ascended⟩ :=
        awaiting_of_addOperator numeric knownLast knownTop pushed
      refine ⟨below, operand, shape, ?_⟩
      simpa [NeverAscends] using ascended
  | cons pair pairs ih =>
      obtain ⟨operator, right'⟩ := pair
      have knownRest : ∀ other ∈ operator :: (pairs.map Prod.fst ++ [last]), table.Knows other :=
        fun other inside => known other (List.mem_cons_of_mem _ inside)
      have knownNext : table.Knows operator := knownRest operator (List.mem_cons_self ..)
      simp only [bind, EStateM.bind, feed_cons] at pushed
      cases added : addOperator table combine operator (pending suspended top left right) with
      | error fault left =>
          simp only [added] at pushed
          cases pushed
      | ok _ next =>
          obtain ⟨suspended', left', rfl, ascended⟩ :=
            awaiting_of_addOperator numeric knownNext knownTop added
          simp only [added] at pushed
          obtain ⟨below, operand, shape, later⟩ := ih knownRest pushed knownNext
          refine ⟨below, operand, shape, ?_⟩
          rw [later, ascended]
          simp only [NeverAscends, List.map_cons, List.cons_append, List.isChain_cons_cons]
          exact and_assoc

/-- After a sequence up to its last operator, only that one waits unless there was an ascent. -/
theorem awaiting_of_lead (numeric : table.Numeric) {first : α} {pairs : List (Value × α)}
    {last : Value} (known : ∀ operator ∈ pairs.map Prod.fst ++ [last], table.Knows operator)
    (pushed : lead table combine first pairs last {} = .ok () waiting) :
    ∃ below operand, waiting = awaiting below last operand ∧
      (below = [] ↔ NeverAscends table (pairs.map Prod.fst ++ [last])) := by
  cases pairs with
  | nil =>
      have opened : addOperator table combine last ⟨[], [first]⟩ = .ok () ⟨[last], [first]⟩ :=
        addOperator_first (known last (by simp)) [first]
      change addOperator table combine last ⟨[], [first]⟩ = _ at pushed
      rw [opened] at pushed
      cases pushed
      exact ⟨[], first, rfl, by simp [NeverAscends]⟩
  | cons pair pairs =>
      obtain ⟨operator, right⟩ := pair
      have opened : addOperator table combine operator (({} : Yard α).addOperand first) =
          .ok () ⟨[operator], [first]⟩ :=
        addOperator_first (known operator (by simp)) [first]
      have run : lead table combine first ((operator, right) :: pairs) last {} =
          (feed table combine pairs >>= fun _ => addOperator table combine last)
            (pending [] operator first right) := by
        change (feed table combine ((operator, right) :: pairs) >>= fun _ =>
          addOperator table combine last) (({} : Yard α).addOperand first) = _
        simp only [bind, EStateM.bind, feed_cons, opened]
        rfl
      rw [run] at pushed
      obtain ⟨below, operand, shape, ascended⟩ := awaiting_of_feed numeric known pushed
      exact ⟨below, operand, shape, by simpa using ascended⟩

/-- If applying an operator cannot fail, a sequence can be fed up to its last operator. -/
theorem exists_lead (numeric : table.Numeric) (total : combine.Total) {first : α}
    {pairs : List (Value × α)} {last : Value}
    (known : ∀ operator ∈ pairs.map Prod.fst ++ [last], table.Knows operator) :
    ∃ waiting, lead table combine first pairs last {} = .ok () waiting := by
  suffices fed : ∀ yard : Yard α, Balanced table 1 yard → ∃ waiting,
      (feed table combine pairs >>= fun _ => addOperator table combine last) yard =
        .ok () waiting from
    fed _ ((balanced_empty table).addOperand first)
  induction pairs with
  | nil =>
      intro yard balanced
      obtain ⟨next, added, _⟩ := balanced.addOperator numeric total (known last (by simp))
      exact ⟨next, added⟩
  | cons pair pairs ih =>
      intro yard balanced
      obtain ⟨operator, right⟩ := pair
      obtain ⟨next, added, kept⟩ := balanced.addOperator numeric total (known operator (by simp))
      have later := ih (fun other inside => known other (List.mem_cons_of_mem _ inside))
        (next.addOperand right) (kept.addOperand right)
      simp only [bind, EStateM.bind, feed_cons, added] at later ⊢
      exact later

/-! ## Finishing without the last operand -/

theorem finish_awaiting_nil (operator : Value) (left : α) :
    finish combine (awaiting [] operator left) =
      .error (missingOperand operator) (awaiting [] operator left) :=
  rfl

/-- An operator over a suspended one is applied to the operand of that one and its own. -/
theorem finish_awaiting_cons (suspended : List (Value × α)) (below operator : Value)
    (first second : α) :
    finish combine (awaiting ((below, first) :: suspended) operator second) =
      match combine operator first second with
      | .ok value => finish combine (awaiting suspended below value)
      | .error fault => .error fault ⟨below :: suspended.map Prod.fst, suspended.map Prod.snd⟩ :=
  finish_cons operator _ first second _

/-- Finishing fails, and the top operator stays only if it is the only one. -/
theorem exists_finish_awaiting (combine : Combine α) (suspended : List (Value × α))
    (operator : Value) (left : α) :
    ∃ fault after, finish combine (awaiting suspended operator left) = .error fault after ∧
      after.operators.length ≤ max 1 suspended.length := by
  -- The number of operators is enough to tell the yard after the failure from the one before.
  induction suspended generalizing operator left with
  | nil => exact ⟨_, _, finish_awaiting_nil operator left, Nat.le_refl 1⟩
  | cons top suspended ih =>
      obtain ⟨below, first⟩ := top
      rw [finish_awaiting_cons]
      cases combine operator first left with
      | error fault => exact ⟨fault, _, rfl, by simp⟩
      | ok value =>
          obtain ⟨fault, after, failed, short⟩ := ih below value
          refine ⟨fault, after, failed, ?_⟩
          simp only [List.length_cons]
          omega

/-- Finishing changes nothing exactly if no operator is suspended. -/
theorem finish_awaiting_unchanged_iff {suspended : List (Value × α)} {operator : Value} {left : α}
    {fault : Fault} {after : Yard α}
    (failed : finish combine (awaiting suspended operator left) = .error fault after) :
    after = awaiting suspended operator left ↔ suspended = [] := by
  constructor
  · rintro rfl
    obtain ⟨_, _, failed', short⟩ := exists_finish_awaiting combine suspended operator left
    rw [failed] at failed'
    cases failed'
    simp only [awaiting, List.length_cons, List.length_map] at short
    exact List.length_eq_zero_iff.mp (by omega)
  · rintro rfl
    rw [finish_awaiting_nil] at failed
    cases failed
    rfl

/-- If applying an operator cannot fail, the lowest one is left to miss its operand. -/
theorem finish_awaiting_total (total : combine.Total) (suspended : List (Value × α))
    (operator : Value) (left : α) :
    ∃ lowest value, finish combine (awaiting suspended operator left) =
      .error (missingOperand lowest) (awaiting [] lowest value) := by
  induction suspended generalizing operator left with
  | nil => exact ⟨operator, left, finish_awaiting_nil operator left⟩
  | cons top suspended ih =>
      obtain ⟨below, first⟩ := top
      obtain ⟨value, built⟩ := total operator first left
      rw [finish_awaiting_cons, built]
      exact ih below value

/-- A tree that was finished too early has the lowest left operand inside its left operand. -/
theorem finish_awaiting_node (suspended : List (Value × Value)) (lowest first operator : Value)
    (left : Value) :
    ∃ fault inner right, finish Combine.node
        (awaiting (suspended ++ [(lowest, first)]) operator left) =
      .error fault (awaiting [] lowest (.node inner first right)) := by
  induction suspended generalizing operator left with
  | nil => exact ⟨_, operator, left, rfl⟩
  | cons top suspended ih =>
      obtain ⟨below, second⟩ := top
      rw [List.cons_append, finish_awaiting_cons]
      exact ih below (.node operator second left)

theorem finish_pending_node (suspended : List (Value × Value)) (lowest first operator : Value)
    (left right : Value) :
    ∃ inner, finish Combine.node
        (pending (suspended ++ [(lowest, first)]) operator left right) =
      .ok (.node lowest first inner) {} := by
  induction suspended generalizing operator left right with
  | nil => exact ⟨_, rfl⟩
  | cons top suspended ih =>
      obtain ⟨below, second⟩ := top
      exact ih below second (.node operator left right)

/-- Once an operator was applied too early, no operand completes the tree as it was meant. -/
theorem finish_resumed_ne {suspended : List (Value × Value)} {operator left : Value}
    {fault : Fault} {after : Yard Value} (several : suspended ≠ [])
    (failed : finish Combine.node (awaiting suspended operator left) = .error fault after)
    (operand : Value) :
    finish Combine.node (after.addOperand operand) ≠
      finish Combine.node ((awaiting suspended operator left).addOperand operand) := by
  obtain ⟨upper, ⟨lowest, first⟩, rfl⟩ :=
    (List.eq_nil_or_concat suspended).resolve_left several
  rw [List.concat_eq_append] at failed ⊢
  obtain ⟨_, inner, right, early⟩ := finish_awaiting_node upper lowest first operator left
  obtain ⟨meant, complete⟩ := finish_pending_node upper lowest first operator left operand
  rw [early] at failed
  cases failed
  rw [addOperand_awaiting, addOperand_awaiting, complete]
  intro same
  -- Both trees have the lowest operator on top; their left operands tell them apart.
  injection same with same
  injection same with _ same
  exact Value.ne_node_left inner first right same.symm

/--
An infix sequence without its last operand cannot be finished.  The attempt leaves
the yard as it was exactly if no operator binds tighter than the one before it;
then the last operator is the one that misses an operand, the operand can be added,
and finishing gives what the whole sequence gives.  Otherwise operators were applied:
if none of them can fail, the lowest one is left with one operand and misses the
other, and no operand completes the tree as it was meant.
-/
theorem finish_resumes_iff (table : Table) (numeric : table.Numeric) (combine : Combine Value)
    (first : Value) (pairs : List (Value × Value)) (last : Value)
    (known : ∀ operator ∈ pairs.map Prod.fst ++ [last], table.Knows operator) :
    (combine.Total → ∃ waiting, lead table combine first pairs last {} = .ok () waiting) ∧
    ∀ waiting, lead table combine first pairs last {} = .ok () waiting →
      ∃ fault after, finish combine waiting = .error fault after ∧
        (after = waiting ↔ NeverAscends table (pairs.map Prod.fst ++ [last])) ∧
        (after = waiting → fault = missingOperand last ∧
          ∀ operand, finish combine (after.addOperand operand) =
            assemble table combine first (pairs ++ [(last, operand)]) {}) ∧
        (combine.Total → ∃ lowest value,
          fault = missingOperand lowest ∧ after = ⟨[lowest], [value]⟩) ∧
        (combine = Combine.node → after ≠ waiting →
          ∀ operand, finish combine (after.addOperand operand) ≠
            assemble table combine first (pairs ++ [(last, operand)]) {}) := by
  refine ⟨fun total => exists_lead numeric total known, ?_⟩
  intro waiting pushed
  obtain ⟨suspended, left, rfl, ascended⟩ := awaiting_of_lead numeric known pushed
  obtain ⟨fault, after, failed, _⟩ := exists_finish_awaiting combine suspended last left
  have unchanged := finish_awaiting_unchanged_iff failed
  refine ⟨fault, after, failed, unchanged.trans ascended, ?_, ?_, ?_⟩
  · intro same
    obtain rfl := unchanged.mp same
    rw [finish_awaiting_nil] at failed
    cases failed
    exact ⟨rfl, fun operand => (assemble_concat pushed operand).symm⟩
  · intro total
    obtain ⟨lowest, value, missed⟩ := finish_awaiting_total total suspended last left
    rw [missed] at failed
    cases failed
    exact ⟨lowest, value, rfl, rfl⟩
  · rintro rfl changed operand
    rw [assemble_concat pushed operand]
    exact finish_resumed_ne (fun empty => changed (unchanged.mpr empty)) failed operand

/-- A product waits for its sum: finishing without the last operand changes nothing. -/
theorem finish_resumes_iff_descent :
    Table.arithmetic.Numeric ∧
      (∀ operator ∈ [("*" : Value), "+"], Table.arithmetic.Knows operator) ∧
      lead Table.arithmetic Combine.node (.int 1) [("*", .int 2)] "+" {} =
        .ok () ⟨["+"], [.node "*" (.int 1) (.int 2)]⟩ ∧
      finish Combine.node ⟨["+"], [.node "*" (.int 1) (.int 2)]⟩ =
        .error (.parsing (.missingOperand "+")) ⟨["+"], [.node "*" (.int 1) (.int 2)]⟩ ∧
      finish Combine.node ⟨["+"], [.int 3, .node "*" (.int 1) (.int 2)]⟩ =
        assemble Table.arithmetic Combine.node (.int 1) [("*", .int 2), ("+", .int 3)] {} := by
  have known : ∀ operator ∈ [("*" : Value), "+"], Table.arithmetic.Knows operator :=
    List.forall_mem_cons.mpr ⟨⟨.int 2, rfl⟩, List.forall_mem_singleton.mpr ⟨.int 1, rfl⟩⟩
  have pushed : lead Table.arithmetic Combine.node (.int 1) [("*", .int 2)] "+" {} =
      .ok () ⟨["+"], [.node "*" (.int 1) (.int 2)]⟩ := rfl
  obtain ⟨_, resumed⟩ := finish_resumes_iff Table.arithmetic Table.arithmetic_numeric Combine.node
    (.int 1) [("*", .int 2)] "+" known
  obtain ⟨fault, after, failed, unchanged, complete, _⟩ := resumed _ pushed
  have same := unchanged.mpr (List.isChain_cons_cons.mpr ⟨rfl, List.isChain_singleton _⟩)
  obtain ⟨rfl, roots⟩ := complete same
  subst same
  exact ⟨Table.arithmetic_numeric, known, pushed, failed, roots (.int 3)⟩

/--
A sum is suspended below a product that misses its operand.  Finishing multiplies
the two operands that there are, and the operand that comes later is added to that.
-/
theorem finish_loses_ascent :
    Table.arithmetic.Numeric ∧
      (∀ operator ∈ [("+" : Value), "*"], Table.arithmetic.Knows operator) ∧
      lead Table.arithmetic Combine.node (.int 1) [("+", .int 2)] "*" {} =
        .ok () ⟨["*", "+"], [.int 2, .int 1]⟩ ∧
      finish Combine.node ⟨["*", "+"], [.int 2, .int 1]⟩ =
        .error (.parsing (.missingOperand "+")) ⟨["+"], [.node "*" (.int 1) (.int 2)]⟩ ∧
      (⟨["+"], [.node "*" (.int 1) (.int 2)]⟩ : Yard Value) ≠ ⟨["*", "+"], [.int 2, .int 1]⟩ ∧
      finish Combine.node ⟨["+"], [.int 3, .node "*" (.int 1) (.int 2)]⟩ =
        .ok (.node "+" (.node "*" (.int 1) (.int 2)) (.int 3)) {} ∧
      assemble Table.arithmetic Combine.node (.int 1) [("+", .int 2), ("*", .int 3)] {} =
        .ok (.node "+" (.int 1) (.node "*" (.int 2) (.int 3))) {} ∧
      Value.node "+" (.node "*" (.int 1) (.int 2)) (.int 3) ≠
        .node "+" (.int 1) (.node "*" (.int 2) (.int 3)) := by
  refine ⟨Table.arithmetic_numeric, ?_, rfl, rfl, ?_, rfl, rfl, ?_⟩
  · exact List.forall_mem_cons.mpr ⟨⟨.int 1, rfl⟩, List.forall_mem_singleton.mpr ⟨.int 2, rfl⟩⟩
  · simp
  · simp

end Yard

end Lexwork
