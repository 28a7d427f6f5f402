import Lexwork.Operator.Yard

/-!
# Infix sequences in a yard

A yard that is fed an operand and then operators and operands in turn builds a
nested value.  A descent or a plateau of precedences is folded to the left; a
strict ascent nests to the right and stays there.  The two stacks of the yard
are described by one list of suspended operators, each with its left operand:
what a suspended operator will be applied to is whatever the rest of the
sequence builds.
-/

namespace Lexwork

theorem Value.atMost?_of_number {first second : Value} {x y : Number}
    (left : first.number? = some x) (right : second.number? = some y) :
    first.atMost? second = some (x.atMost y) := by
  cases first <;> cases second <;> simp_all [atMost?, number?]

namespace Table

/-- Every precedence of the table is a number. -/
def Numeric (table : Table) : Prop :=
  ∀ entry ∈ table.entries, ∃ x, entry.2.number? = some x

def Knows (table : Table) (operator : Value) : Prop :=
  ∃ precedence, table.lookup operator.symbol = .ok (some precedence)

/-- The number by which an operator binds, if it has one. -/
def rank? (table : Table) (operator : Value) : Option Number :=
  (table.find? operator.symbol).bind Value.number?

/-- Whether an operator binds no tighter than the one before it. -/
def noTighter (table : Table) (second first : Value) : Bool :=
  match table.rank? second, table.rank? first with
  | some x, some y => x.atMost y
  | _, _ => false

variable {table : Table}

theorem find?_of_lookup {symbol precedence : Value}
    (found : table.lookup symbol = .ok (some precedence)) :
    table.find? symbol = some precedence := by
  unfold lookup at found
  split at found
  · exact Except.ok.inj found
  · cases found

theorem mem_of_find? {symbol precedence : Value} (found : table.find? symbol = some precedence) :
    ∃ key, (key, precedence) ∈ table.entries := by
  unfold find? at found
  obtain ⟨⟨key, value⟩, selected, rfl⟩ := Option.map_eq_some_iff.mp found
  exact ⟨key, List.mem_of_find?_eq_some selected⟩

theorem Numeric.number? (numeric : table.Numeric) {symbol precedence : Value}
    (found : table.lookup symbol = .ok (some precedence)) :
    ∃ x, precedence.number? = some x := by
  obtain ⟨key, inside⟩ := mem_of_find? (find?_of_lookup found)
  exact numeric (key, precedence) inside

theorem lookup_of_not_knows {operator : Value} (key : operator.symbol.isKey = true)
    (unknown : ¬table.Knows operator) : table.lookup operator.symbol = .ok none := by
  have looked : table.lookup operator.symbol = .ok (table.find? operator.symbol) := if_pos key
  cases found : table.find? operator.symbol with
  | none => rw [looked, found]
  | some precedence => exact absurd ⟨precedence, by rw [looked, found]⟩ unknown

theorem Knows.precedence {operator : Value} (known : table.Knows operator) :
    ∃ value, table.lookup operator.symbol = .ok (some value) ∧
      table.precedence operator = .ok value := by
  obtain ⟨value, found⟩ := known
  refine ⟨value, found, ?_⟩
  rw [Table.precedence, found]

theorem Numeric.yields (numeric : table.Numeric) {operator top precedence : Value}
    (found : table.lookup operator.symbol = .ok (some precedence)) (known : table.Knows top) :
    table.yields precedence top = .ok (table.noTighter operator top) := by
  obtain ⟨other, foundTop, valued⟩ := known.precedence
  obtain ⟨x, numberHere⟩ := numeric.number? found
  obtain ⟨y, numberTop⟩ := numeric.number? foundTop
  have answer := Value.atMost?_of_number numberHere numberTop
  rw [Table.yields, valued]
  simp only [answer, noTighter, rank?, find?_of_lookup found, find?_of_lookup foundTop,
    Option.bind_some, numberHere, numberTop]

theorem arithmetic_numeric : arithmetic.Numeric := by
  simp [Numeric, arithmetic, Value.number?]

end Table

/-! ## Feeding a yard -/

namespace Yard

variable {α : Type}

/-- Adds operators and operands in turn. -/
def feed (table : Table) (combine : Combine α) : List (Value × α) → Action α Unit
  | [] => pure ()
  | (operator, operand) :: rest => do
      addOperator table combine operator
      modify (·.addOperand operand)
      feed table combine rest

/-- Builds what an operand, followed by operators and operands in turn, stands for. -/
def assemble (table : Table) (combine : Combine α) (first : α) (pairs : List (Value × α)) :
    Action α α := do
  modify (·.addOperand first)
  feed table combine pairs
  finish combine

/-- The value of an infix sequence, by the precedences of neighbouring operators. -/
def nest (noTighter : Value → Value → Bool) (f : Value → α → α → α) : α → List (Value × α) → α
  | x, [] => x
  | x, [(o, a)] => f o x a
  | x, (o, a) :: (o', a') :: rest =>
      if noTighter o' o then nest noTighter f (f o x a) ((o', a') :: rest)
      else f o x (nest noTighter f a ((o', a') :: rest))

/-- The same where applying an operator may fail; operands are built left to right. -/
def climb (noTighter : Value → Value → Bool) (combine : Combine α) :
    α → List (Value × α) → Except Fault α
  | x, [] => .ok x
  | x, [(o, a)] => combine o x a
  | x, (o, a) :: (o', a') :: rest =>
      if noTighter o' o then
        (combine o x a).bind fun left => climb noTighter combine left ((o', a') :: rest)
      else
        (climb noTighter combine a ((o', a') :: rest)).bind (combine o x)

/-- Applies suspended operators, innermost first, to the value of what followed them. -/
def resume (combine : Combine α) : List (Value × α) → α → Except Fault α
  | [], value => .ok value
  | (o, x) :: suspended, value => (combine o x value).bind (resume combine suspended)

/-- A run ends as an outcome says: with its value and an empty yard, or with its failure. -/
def Settles (result : EStateM.Result Fault (Yard α) α) : Except Fault α → Prop
  | .ok value => result = .ok value {}
  | .error fault => ∃ yard, result = .error fault yard

theorem climb_ok (noTighter : Value → Value → Bool) (f : Value → α → α → α) (x : α)
    (pairs : List (Value × α)) :
    climb noTighter (fun o left right => .ok (f o left right)) x pairs =
      .ok (nest noTighter f x pairs) := by
  fun_induction nest noTighter f x pairs with
  | case1 x => rfl
  | case2 x o a => rfl
  | case3 x o a o' a' rest collapses ih =>
      rw [climb, if_pos collapses]
      exact ih
  | case4 x o a o' a' rest ascends ih =>
      rw [climb, if_neg ascends, ih]
      rfl

/-- A yard whose top operator has both operands, over suspended ones that wait for theirs. -/
def pending (suspended : List (Value × α)) (operator : Value) (left right : α) : Yard α :=
  ⟨operator :: suspended.map Prod.fst, right :: left :: suspended.map Prod.snd⟩

variable {table : Table} {combine : Combine α}

/-- Finishing a yard with a complete top operator applies it first. -/
theorem finish_cons (operator : Value) (operators : List Value) (left right : α)
    (output : List α) :
    finish combine ⟨operator :: operators, right :: left :: output⟩ =
      match combine operator left right with
      | .ok value => finish combine ⟨operators, value :: output⟩
      | .error fault => .error fault ⟨operators, output⟩ := by
  unfold finish
  simp only [List.length_cons, reduceTimes, reduce]
  cases combine operator left right with
  | error fault => rfl
  | ok value => rfl

theorem settles_finish (suspended : List (Value × α)) (value : α) :
    Settles (finish combine ⟨suspended.map Prod.fst, value :: suspended.map Prod.snd⟩)
      (resume combine suspended value) := by
  induction suspended generalizing value with
  | nil => rfl
  | cons top suspended ih =>
      obtain ⟨operator, left⟩ := top
      simp only [List.map_cons, finish_cons, resume]
      cases combine operator left value with
      | error fault => exact ⟨_, rfl⟩
      | ok built => exact ih built

theorem feed_cons (operator : Value) (operand : α) (pairs : List (Value × α)) (yard : Yard α) :
    feed table combine ((operator, operand) :: pairs) yard =
      match addOperator table combine operator yard with
      | .ok _ next => feed table combine pairs (next.addOperand operand)
      | .error fault next => .error fault next := by
  rw [feed]
  simp only [bind, EStateM.bind]
  cases addOperator table combine operator yard with
  | error fault next => rfl
  | ok _ next => rfl

/-- An operator that binds no tighter first applies the top one; any other just waits. -/
theorem addOperator_pending (numeric : table.Numeric) {operator top : Value}
    (known : table.Knows operator) (knownTop : table.Knows top)
    (suspended : List (Value × α)) (left right : α) :
    addOperator table combine operator (pending suspended top left right) =
      if table.noTighter operator top then
        match combine top left right with
        | .ok value =>
            .ok () ⟨operator :: suspended.map Prod.fst, value :: suspended.map Prod.snd⟩
        | .error fault => .error fault ⟨suspended.map Prod.fst, suspended.map Prod.snd⟩
      else
        .ok () ((pending suspended top left right).push operator) := by
  obtain ⟨precedence, found⟩ := known
  have answer := numeric.yields found knownTop
  unfold addOperator
  simp only [found, pending, answer]
  cases table.noTighter operator top with
  | false => rfl
  | true =>
      simp only [reduce, if_true]
      cases combine top left right with
      | error fault => rfl
      | ok value => rfl

theorem bind_resume_nil (outcome : Except Fault α) :
    outcome.bind (resume combine []) = outcome := by
  cases outcome with
  | error fault => rfl
  | ok value => rfl

theorem bind_resume_cons (operator : Value) (left : α) (suspended : List (Value × α))
    (outcome : Except Fault α) :
    outcome.bind (resume combine ((operator, left) :: suspended)) =
      (outcome.bind (combine operator left)).bind (resume combine suspended) := by
  cases outcome with
  | error fault => rfl
  | ok value => rfl

/--
What a yard builds from a sequence, with operators suspended below it: first
the value of the sequence, then what the suspended operators make of it.
-/
theorem settles_feed_finish (combine : Combine α) (numeric : table.Numeric)
    (suspended : List (Value × α)) (operator : Value) (left right : α) (pairs : List (Value × α))
    (known : ∀ pair ∈ (operator, right) :: pairs, table.Knows pair.1) :
    Settles ((feed table combine pairs >>= fun _ => finish combine)
        (pending suspended operator left right))
      ((climb table.noTighter combine left ((operator, right) :: pairs)).bind
        (resume combine suspended)) := by
  induction pairs generalizing suspended operator left right with
  | nil => exact settles_finish ((operator, left) :: suspended) right
  | cons pair pairs ih =>
      obtain ⟨next, operand⟩ := pair
      have knownTop : table.Knows operator := known (operator, right) (List.mem_cons_self ..)
      have knownRest : ∀ pair ∈ (next, operand) :: pairs, table.Knows pair.1 :=
        fun pair inside => known pair (List.mem_cons_of_mem _ inside)
      have knownNext : table.Knows next := knownRest (next, operand) (List.mem_cons_self ..)
      simp only [bind, EStateM.bind, feed_cons, addOperator_pending numeric knownNext knownTop]
      cases collapses : table.noTighter next operator with
      | true =>
          -- The top operator is complete: its value is the left operand of the next one.
          rw [climb, if_pos collapses]
          simp only [if_true]
          cases combine operator left right with
          | error fault => exact ⟨_, rfl⟩
          | ok value => exact ih suspended next value operand knownRest
      | false =>
          -- The top operator is suspended: its right operand is the value of the rest.
          have ascends : ¬ table.noTighter next operator = true := by simp [collapses]
          have waits : climb table.noTighter combine left
                ((operator, right) :: (next, operand) :: pairs) =
              (climb table.noTighter combine right ((next, operand) :: pairs)).bind
                (combine operator left) := by
            rw [climb, if_neg ascends]
          have rest := ih ((operator, left) :: suspended) next right operand knownRest
          rw [bind_resume_cons] at rest
          rw [waits]
          exact rest

/-- A yard without operators takes every operator that the table knows. -/
theorem addOperator_first {operator : Value} (known : table.Knows operator) (output : List α) :
    addOperator table combine operator ⟨[], output⟩ = .ok () ⟨[operator], output⟩ := by
  obtain ⟨precedence, found⟩ := known
  rw [addOperator, found]
  rfl

/-- A yard fed with an infix sequence of known operators builds what climbing it does. -/
theorem settles_assemble (combine : Combine α) (numeric : table.Numeric) (first : α)
    (pairs : List (Value × α)) (known : ∀ pair ∈ pairs, table.Knows pair.1) :
    Settles (assemble table combine first pairs {})
      (climb table.noTighter combine first pairs) := by
  cases pairs with
  | nil => rfl
  | cons pair pairs =>
      obtain ⟨operator, operand⟩ := pair
      have opened : addOperator table combine operator (({} : Yard α).addOperand first) =
          .ok () ⟨[operator], [first]⟩ :=
        addOperator_first (known (operator, operand) (List.mem_cons_self ..)) [first]
      have run : assemble table combine first ((operator, operand) :: pairs) {} =
          (feed table combine pairs >>= fun _ => finish combine)
            (pending [] operator first operand) := by
        change (feed table combine ((operator, operand) :: pairs) >>= fun _ => finish combine)
          (({} : Yard α).addOperand first) = _
        simp only [bind, EStateM.bind, feed_cons, opened]
        rfl
      have settled := settles_feed_finish combine numeric [] operator first operand pairs known
      rw [bind_resume_nil] at settled
      rw [run]
      exact settled

/--
Whatever an operator that cannot fail builds, an infix sequence of known
operators leaves the yard empty and builds the nested value of the sequence.
-/
theorem assemble_eq_nest (table : Table) (numeric : table.Numeric) (f : Value → α → α → α)
    (first : α) (pairs : List (Value × α)) (known : ∀ pair ∈ pairs, table.Knows pair.1) :
    assemble table (fun operator left right => .ok (f operator left right)) first pairs {} =
      .ok (nest table.noTighter f first pairs) {} := by
  have settled := settles_assemble (fun operator left right => .ok (f operator left right))
    numeric first pairs known
  rw [climb_ok] at settled
  exact settled

theorem assemble_eq_nest_arithmetic :
    Table.arithmetic.Numeric ∧
      assemble Table.arithmetic Combine.node (.int 1)
          [("-", .int 2), ("*", .int 3), ("-", .int 4), ("+", .int 5)] {} =
        .ok (.node "-" (.int 1)
          (.node "+" (.node "-" (.node "*" (.int 2) (.int 3)) (.int 4)) (.int 5))) {} := by
  have numeric : Table.arithmetic.Numeric := by
    simp [Table.Numeric, Table.arithmetic, Value.number?]
  refine ⟨numeric, assemble_eq_nest Table.arithmetic numeric Value.node (.int 1) _ ?_⟩
  simp only [List.mem_cons, List.not_mem_nil, or_false, forall_eq_or_imp, forall_eq]
  exact ⟨⟨.int 1, rfl⟩, ⟨.int 2, rfl⟩, ⟨.int 1, rfl⟩, ⟨.int 1, rfl⟩⟩

end Yard

end Lexwork
