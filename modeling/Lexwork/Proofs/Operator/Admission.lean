import Lexwork.Proofs.Operator.Conservation
import Lexwork.Proofs.Operator.Failure

/-!
# Admitting operators

Only operators of the table become pending, and reductions take pending operators
off the top.  So whatever was asked of a yard before, failed calls among it, the
table has a precedence for every pending operator.  A new operator is therefore
refused for one of two reasons only: the table does not have it, or the reduction
that it calls for misses an operand.  Either way nothing has changed.  A refusal shows
a symbol, and fails to say why it refuses if that symbol has no text.
-/

namespace Lexwork

namespace Yard

variable {α : Type} {table : Table} {combine : Combine α} {yard : Yard α} {operator : Value}

/--
The yards that calls in any order lead to, whether they fail or not.  Asking the
table for a precedence leaves the yard alone.
-/
inductive Reachable (table : Table) (combine : Combine α) : Yard α → Prop
  | empty : Reachable table combine {}
  | operand {yard : Yard α} (reached : Reachable table combine yard) (value : α) :
      Reachable table combine (yard.addOperand value)
  | operator {yard : Yard α} (reached : Reachable table combine yard) (operator : Value) :
      Reachable table combine (yardAfter (addOperator table combine operator yard))
  | reduce {yard : Yard α} (reached : Reachable table combine yard) :
      Reachable table combine (yardAfter (Yard.reduce combine yard))
  | finish {yard : Yard α} (reached : Reachable table combine yard) :
      Reachable table combine (yardAfter (Yard.finish combine yard))

/-- A reduction takes at most the top operator, whatever comes of it. -/
theorem suffix_reduce (combine : Combine α) (yard : Yard α) :
    (yardAfter (reduce combine yard)).operators <:+ yard.operators := by
  obtain ⟨operators, output⟩ := yard
  unfold reduce
  match operators, output with
  | [], _ => exact List.suffix_rfl
  | _ :: _, [] => exact List.suffix_rfl
  | _ :: _, [_] => exact List.suffix_rfl
  | operator :: pending, right :: left :: rest =>
      cases built : combine operator left right with
      | error fault =>
          simp only [built]
          exact List.suffix_cons operator pending
      | ok value =>
          simp only [built]
          exact List.suffix_cons operator pending

theorem suffix_reduceTimes (combine : Combine α) (count : Nat) (yard : Yard α) :
    (yardAfter (reduceTimes combine count yard)).operators <:+ yard.operators := by
  induction count generalizing yard with
  | zero => exact List.suffix_rfl
  | succ count ih =>
      have first := suffix_reduce combine yard
      rw [reduceTimes]
      cases reduced : reduce combine yard with
      | error fault next =>
          rw [reduced] at first
          exact first
      | ok _ next =>
          rw [reduced] at first
          exact (ih next).trans first

theorem suffix_finish (combine : Combine α) (yard : Yard α) :
    (yardAfter (finish combine yard)).operators <:+ yard.operators := by
  have reductions := suffix_reduceTimes combine yard.operators.length yard
  unfold finish
  cases reduced : reduceTimes combine yard.operators.length yard with
  | error fault next =>
      rw [reduced] at reductions
      exact reductions
  | ok _ next =>
      rw [reduced] at reductions
      dsimp only
      split <;> exact reductions

/-- What is pending after an operator was added was pending before, or was found in the table. -/
theorem mem_addOperator {other : Value}
    (inside : other ∈ (yardAfter (addOperator table combine operator yard)).operators) :
    other ∈ yard.operators ∨ (other = operator ∧ table.Knows operator) := by
  have reduction := suffix_reduce combine yard
  unfold addOperator at inside
  split at inside
  · exact .inl inside
  · exact .inl inside
  · rename_i precedence found
    have known : table.Knows operator := ⟨precedence, found⟩
    have pushed {base : Yard α} (below : base.operators <:+ yard.operators)
        (inside : other ∈ (base.push operator).operators) :
        other ∈ yard.operators ∨ (other = operator ∧ table.Knows operator) := by
      rcases List.mem_cons.mp inside with same | inBase
      · exact .inr ⟨same, known⟩
      · exact .inl (below.subset inBase)
    split at inside
    · exact pushed List.suffix_rfl inside
    · split at inside
      · exact .inl inside
      · exact pushed List.suffix_rfl inside
      · cases reduced : reduce combine yard with
        | error fault next =>
            rw [reduced] at inside reduction
            exact .inl (reduction.subset inside)
        | ok _ next =>
            rw [reduced] at inside reduction
            exact pushed reduction inside

/-- Whatever was asked before, the table knows every pending operator. -/
theorem Reachable.known (reached : Reachable table combine yard) :
    ∀ other ∈ yard.operators, table.Knows other := by
  induction reached with
  | empty => exact fun _ inside => absurd inside List.not_mem_nil
  | operand reached value ih => exact ih
  | operator reached operator ih =>
      intro other inside
      rcases mem_addOperator inside with before | ⟨rfl, known⟩
      · exact ih other before
      · exact known
  | @reduce yard reached ih =>
      exact fun other inside => ih other ((suffix_reduce combine yard).subset inside)
  | @finish yard reached ih =>
      exact fun other inside => ih other ((suffix_finish combine yard).subset inside)

/--
What becomes of an operator that is added to a yard.  Both refusals show a symbol; where
that has no text, the failure to write it stands for either.
-/
inductive Admission (table : Table) (combine : Combine α) (operator : Value) :
    Yard α → EStateM.Result Fault (Yard α) Unit → Prop
  | unknown {yard : Yard α} {found : Unexpected} (unknown : ¬table.Knows operator)
      (written : operator.symbol.HasText) :
      Admission table combine operator yard (.error (.unexpected found) yard)
  | unwritten {yard : Yard α} (unknown : ¬table.Knows operator)
      (unwritten : ¬operator.symbol.HasText) :
      Admission table combine operator yard (.error (.badValue .tooLongToWrite) yard)
  | missing {top : Value} {shown : Text} {pending : List Value} {output : List α}
      (known : table.Knows operator) (looser : table.noTighter operator top = true)
      (few : output.length < 2) (written : top.symbol.HasText) :
      Admission table combine operator ⟨top :: pending, output⟩
        (.error (.parsing (.missingOperand shown)) ⟨top :: pending, output⟩)
  | missingUnwritten {top : Value} {pending : List Value} {output : List α}
      (known : table.Knows operator) (looser : table.noTighter operator top = true)
      (few : output.length < 2) (unwritten : ¬top.symbol.HasText) :
      Admission table combine operator ⟨top :: pending, output⟩
        (.error (.badValue .tooLongToWrite) ⟨top :: pending, output⟩)
  | pushed {yard : Yard α} (known : table.Knows operator)
      (tighter : ∀ top ∈ yard.operators.head?, table.noTighter operator top = false) :
      Admission table combine operator yard (.ok () (yard.push operator))
  | reduced {top : Value} {pending : List Value} {left right value : α} {rest : List α}
      (known : table.Knows operator) (looser : table.noTighter operator top = true)
      (built : combine top left right = .ok value) :
      Admission table combine operator ⟨top :: pending, right :: left :: rest⟩
        (.ok () ⟨operator :: pending, value :: rest⟩)

theorem Admission.of_unknown (unknown : ¬table.Knows operator) :
    Admission table combine operator yard (.error (unknownOperator operator) yard) := by
  obtain ⟨written, found, same⟩ | ⟨unwritten, same⟩ := unknownOperator_eq operator
  · rw [same]
    exact .unknown unknown written
  · rw [same]
    exact .unwritten unknown unwritten

theorem Admission.of_missing {top : Value} {pending : List Value} {output : List α}
    (known : table.Knows operator) (looser : table.noTighter operator top = true)
    (few : output.length < 2) :
    Admission table combine operator ⟨top :: pending, output⟩
      (.error (missingOperand top) ⟨top :: pending, output⟩) := by
  obtain ⟨shown, written, same⟩ | ⟨unwritten, same⟩ := missingOperand_eq top
  · rw [same]
    exact .missing known looser few ⟨shown, written⟩
  · rw [same]
    exact .missingUnwritten known looser few (Value.not_hasText_iff.mpr unwritten)

/-- Over known operators an operator is unknown, misses an operand, or is taken. -/
theorem admission_addOperator (numeric : table.Numeric) (total : combine.Total)
    (known : ∀ other ∈ yard.operators, table.Knows other) (key : operator.symbol.isKey = true) :
    Admission table combine operator yard (addOperator table combine operator yard) := by
  by_cases knownHere : table.Knows operator
  · obtain ⟨operators, output⟩ := yard
    cases operators with
    | nil =>
        rw [addOperator_first knownHere]
        exact .pushed knownHere (by rintro _ ⟨⟩)
    | cons top pending =>
        have ⟨precedence, looked⟩ := knownHere
        have answer := numeric.yields looked (known top (List.mem_cons_self ..))
        simp only [addOperator, looked, answer]
        cases looser : table.noTighter operator top with
        | false => exact .pushed knownHere (by rintro _ ⟨⟩; exact looser)
        | true =>
            -- The top operator is applied first, if both its operands are there.
            rcases output with _ | ⟨right, _ | ⟨left, rest⟩⟩
            · exact .of_missing knownHere looser (by simp)
            · exact .of_missing knownHere looser (by simp)
            · obtain ⟨value, built⟩ := total top left right
              simp only [reduce, built]
              exact .reduced knownHere looser built
  · rw [addOperator_unknown key knownHere]
    exact .of_unknown knownHere

namespace Admission

variable {result : EStateM.Result Fault (Yard α) Unit} {next : Yard α}

/-- An operator that is taken by a yard with fewer than two operands calls for no reduction. -/
theorem tighter_of_few (admission : Admission table combine operator yard (.ok () next))
    (few : yard.output.length < 2) :
    ∀ top ∈ yard.operators.head?, table.noTighter operator top ≠ true := by
  cases admission with
  | pushed known tighter => exact fun top first => Bool.eq_false_iff.mp (tighter top first)
  | reduced known looser built =>
      simp only [List.length_cons] at few
      omega

theorem unknown_iff (admission : Admission table combine operator yard result) :
    (∃ found next, result = .error (.unexpected found) next) ↔
      ¬table.Knows operator ∧ operator.symbol.HasText := by
  cases admission with
  | unknown unknown written => exact iff_of_true ⟨_, _, rfl⟩ ⟨unknown, written⟩
  | unwritten unknown unwritten => exact iff_of_false (by simp) fun other => unwritten other.2
  | missing known | missingUnwritten known | pushed known | reduced known =>
      exact iff_of_false (by simp) fun other => other.1 known

theorem missing_iff (admission : Admission table combine operator yard result) :
    (∃ symbol next, result = .error (.parsing (.missingOperand symbol)) next) ↔
      table.Knows operator ∧ yard.output.length < 2 ∧
        ∃ top ∈ yard.operators.head?,
          table.noTighter operator top = true ∧ top.symbol.HasText := by
  cases result with
  | ok _ next =>
      refine iff_of_false (by simp) ?_
      rintro ⟨_, few, top, first, looser, _⟩
      exact admission.tighter_of_few few top first looser
  | error fault next =>
      cases admission with
      | unknown unknown | unwritten unknown =>
          exact iff_of_false (by simp) fun other => unknown other.1
      | missing known looser few written =>
          exact iff_of_true ⟨_, _, rfl⟩ ⟨known, few, _, rfl, looser, written⟩
      | missingUnwritten known looser few unwritten =>
          refine iff_of_false (by simp) ?_
          rintro ⟨_, _, _, ⟨⟩, _, written⟩
          exact unwritten written

theorem taken_iff (admission : Admission table combine operator yard result) :
    (∃ next, result = .ok () next) ↔
      table.Knows operator ∧ (2 ≤ yard.output.length ∨
        ∀ top ∈ yard.operators.head?, table.noTighter operator top = false) := by
  cases admission with
  | unknown unknown | unwritten unknown =>
      exact iff_of_false (by simp) fun conditions => unknown conditions.1
  | missing known looser few | missingUnwritten known looser few =>
      refine iff_of_false (by simp) ?_
      rintro ⟨_, enough | tighter⟩
      · exact absurd few (Nat.not_lt.mpr enough)
      · exact Bool.false_ne_true ((tighter _ rfl).symm.trans looser)
  | pushed known tighter => exact iff_of_true ⟨_, rfl⟩ ⟨known, .inr tighter⟩
  | reduced known looser built => exact iff_of_true ⟨_, rfl⟩ ⟨known, .inl (by simp)⟩

theorem unwritten_iff (admission : Admission table combine operator yard result) :
    (∃ next, result = .error (.badValue .tooLongToWrite) next) ↔
      ¬table.Knows operator ∧ ¬operator.symbol.HasText ∨
        table.Knows operator ∧ yard.output.length < 2 ∧
          ∃ top ∈ yard.operators.head?,
            table.noTighter operator top = true ∧ ¬top.symbol.HasText := by
  cases result with
  | ok _ next =>
      have known := (admission.taken_iff.mp ⟨_, rfl⟩).1
      refine iff_of_false (by simp) ?_
      rintro (⟨unknown, _⟩ | ⟨_, few, top, first, looser, _⟩)
      · exact unknown known
      · exact admission.tighter_of_few few top first looser
  | error fault next =>
      cases admission with
      | unknown unknown written =>
          refine iff_of_false (by simp) ?_
          rintro (⟨_, unwritten⟩ | ⟨known, _⟩)
          · exact unwritten written
          · exact unknown known
      | unwritten unknown unwritten => exact iff_of_true ⟨_, rfl⟩ (.inl ⟨unknown, unwritten⟩)
      | missing known looser few written =>
          refine iff_of_false (by simp) ?_
          rintro (⟨unknown, _⟩ | ⟨_, _, _, ⟨⟩, _, unwritten⟩)
          · exact unknown known
          · exact unwritten written
      | missingUnwritten known looser few unwritten =>
          exact iff_of_true ⟨_, rfl⟩ (.inr ⟨known, few, _, rfl, looser, unwritten⟩)

theorem refused {fault : Fault}
    (admission : Admission table combine operator yard (.error fault next)) :
    next = yard ∧ ((∃ found, fault = .unexpected found) ∨
      (∃ symbol, fault = .parsing (.missingOperand symbol)) ∨
      fault = .badValue .tooLongToWrite) := by
  cases admission with
  | unknown => exact ⟨rfl, .inl ⟨_, rfl⟩⟩
  | missing => exact ⟨rfl, .inr (.inl ⟨_, rfl⟩)⟩
  | unwritten | missingUnwritten => exact ⟨rfl, .inr (.inr rfl)⟩

theorem taken (admission : Admission table combine operator yard (.ok () next)) :
    next = yard.push operator ∨ ∃ top pending left right rest value,
      yard = ⟨top :: pending, right :: left :: rest⟩ ∧ combine top left right = .ok value ∧
        next = ⟨operator :: pending, value :: rest⟩ := by
  cases admission with
  | pushed known tighter => exact .inl rfl
  | reduced known looser built => exact .inr ⟨_, _, _, _, _, _, rfl, built, rfl⟩

end Admission

/--
Whatever was asked of a yard before, an operator whose symbol can be a key is
unexpected exactly if the table does not have it.  It misses an operand exactly if
it is in the table, binds no tighter than the topmost pending operator, and there
are fewer than two operands.  Both failures show a symbol, and exactly where that
symbol has no text the failure to write it takes their place.  The operator is
refused for nothing else, and a refusal changes nothing.  Else it is the topmost
pending operator now, and at most the one that was topmost before has been applied.
-/
theorem addOperator_in_reach (table : Table) (numeric : table.Numeric) (combine : Combine α)
    (total : combine.Total) (yard : Yard α) (reached : Reachable table combine yard)
    (operator : Value) (key : operator.symbol.isKey = true) :
    (∀ other ∈ yard.operators, table.Knows other) ∧
      ((∃ found next, addOperator table combine operator yard = .error (.unexpected found) next) ↔
        ¬table.Knows operator ∧ operator.symbol.HasText) ∧
      ((∃ symbol next, addOperator table combine operator yard =
          .error (.parsing (.missingOperand symbol)) next) ↔
        table.Knows operator ∧ yard.output.length < 2 ∧
          ∃ top ∈ yard.operators.head?,
            table.noTighter operator top = true ∧ top.symbol.HasText) ∧
      ((∃ next, addOperator table combine operator yard =
          .error (.badValue .tooLongToWrite) next) ↔
        ¬table.Knows operator ∧ ¬operator.symbol.HasText ∨
          table.Knows operator ∧ yard.output.length < 2 ∧
            ∃ top ∈ yard.operators.head?,
              table.noTighter operator top = true ∧ ¬top.symbol.HasText) ∧
      (∀ fault next, addOperator table combine operator yard = .error fault next →
        next = yard ∧ ((∃ found, fault = .unexpected found) ∨
          (∃ symbol, fault = .parsing (.missingOperand symbol)) ∨
          fault = .badValue .tooLongToWrite)) ∧
      ((∃ next, addOperator table combine operator yard = .ok () next) ↔
        table.Knows operator ∧ (2 ≤ yard.output.length ∨
          ∀ top ∈ yard.operators.head?, table.noTighter operator top = false)) ∧
      ∀ next, addOperator table combine operator yard = .ok () next →
        next = yard.push operator ∨ ∃ top pending left right rest value,
          yard = ⟨top :: pending, right :: left :: rest⟩ ∧ combine top left right = .ok value ∧
            next = ⟨operator :: pending, value :: rest⟩ := by
  have known := reached.known
  have admission := admission_addOperator numeric total known key
  refine ⟨known, admission.unknown_iff, admission.missing_iff, admission.unwritten_iff, ?_,
    admission.taken_iff, ?_⟩
  · intro fault next refused
    rw [refused] at admission
    exact admission.refused
  · intro next added
    rw [added] at admission
    exact admission.taken

/-- Finishing too early leaves a sum without an operand, so that no further sum is taken. -/
theorem addOperator_in_reach_unfinished :
    Table.arithmetic.Numeric ∧ Combine.node.Total ∧
      Reachable Table.arithmetic Combine.node ⟨["+"], [.node "*" (.int 1) (.int 2)]⟩ ∧
      Value.isKey (Value.symbol "-") = true ∧
      ∃ symbol, addOperator Table.arithmetic Combine.node "-"
          ⟨["+"], [.node "*" (.int 1) (.int 2)]⟩ =
        .error (.parsing (.missingOperand symbol)) ⟨["+"], [.node "*" (.int 1) (.int 2)]⟩ := by
  have reached : Reachable Table.arithmetic Combine.node
      ⟨["+"], [.node "*" (.int 1) (.int 2)]⟩ :=
    ((((Reachable.empty.operand (Value.int 1)).operator "+").operand (.int 2)).operator "*").finish
  obtain ⟨_, _, missing, _, refused, _⟩ := addOperator_in_reach Table.arithmetic
    Table.arithmetic_numeric Combine.node Combine.node_total _ reached "-" rfl
  obtain ⟨symbol, next, failed⟩ :=
    missing.mpr ⟨⟨.int 1, rfl⟩, by simp, "+", rfl, rfl, Value.hasText_str "+"⟩
  obtain ⟨rfl, _⟩ := refused _ next failed
  exact ⟨Table.arithmetic_numeric, Combine.node_total, reached, rfl, symbol, failed⟩

/--
An operator that is too long to be written is pending and has no operand.  The same
operator once more has to wait for it, but what it misses cannot be said.
-/
theorem addOperator_fails_unwritten :
    Table.unwritten.Numeric ∧ Combine.node.Total ∧
      Reachable Table.unwritten Combine.node ⟨[.longInteger], []⟩ ∧
      Value.isKey (Value.symbol .longInteger) = true ∧
      Table.unwritten.Knows .longInteger ∧
      Table.unwritten.noTighter .longInteger .longInteger = true ∧
      addOperator Table.unwritten Combine.node .longInteger ⟨[.longInteger], []⟩ =
        .error (.badValue .tooLongToWrite) ⟨[.longInteger], []⟩ := by
  have known := Table.knows_unwritten
  have reached : Reachable Table.unwritten Combine.node ⟨[.longInteger], []⟩ := by
    have first : Reachable Table.unwritten Combine.node (yardAfter _) :=
      Reachable.empty.operator Value.longInteger
    rw [addOperator_first known] at first
    exact first
  have looser : Table.unwritten.noTighter .longInteger .longInteger = true := by
    have ranked : Table.unwritten.rank? .longInteger = some (.int 1) := by
      rw [Table.rank?, Value.symbol_longInteger, Table.find?_of_lookup Table.lookup_unwritten]
      rfl
    rw [Table.noTighter, ranked]
    rfl
  have admission : Admission Table.unwritten Combine.node .longInteger _ _ :=
    admission_addOperator Table.unwritten_numeric Combine.node_total reached.known rfl
  obtain ⟨next, failed⟩ := admission.unwritten_iff.mpr
    (.inr ⟨known, Nat.zero_lt_two, _, rfl, looser, Value.not_hasText_longInteger⟩)
  rw [failed] at admission
  obtain ⟨rfl, _⟩ := admission.refused
  exact ⟨Table.unwritten_numeric, Combine.node_total, reached, rfl, known, looser, failed⟩

end Yard

end Lexwork
