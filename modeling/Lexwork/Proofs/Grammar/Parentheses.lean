import Lexwork.Proofs.Grammar.Acceptance

/-!
# Expressions with all their parentheses

If every operator stands in parentheses of its own, no precedence is ever
compared: each yard of a run holds one operator and its two operands, and what
the operator makes of them goes to the yard that was suspended before.
-/

namespace Lexwork

namespace Grammar

namespace Calculator

/-- Tokens that spell a value, with each operator in parentheses of its own. -/
inductive Spells (table : Table) (combine : Combine Value) : List Value → Value → Prop
  | integer (content line character : Value) :
      Spells table combine [.token content "integer" line character] content
  | group {opening operator closing left right value : Value} {before behind : List Value}
      (opens : IsOfType "open paren" opening) (first : Spells table combine before left)
      (applied : IsOperator table operator) (second : Spells table combine behind right)
      (closes : IsOfType "close paren" closing) (built : combine operator left right = .ok value) :
      Spells table combine (opening :: (before ++ operator :: (behind ++ [closing]))) value

variable {table : Table} {combine : Combine Value} {items : List Value} {value : Value}

/-- A run takes the tokens that spell a value and gives the value to its current yard. -/
theorem Spells.run (spelled : Spells table combine items value)
    (suspended : List (Yard Value)) (current : Yard Value) {cursor : TokenCursor}
    {rest : List Value} (stands : cursor.HasRest (items ++ rest)) :
    ∃ after, (expression table combine).run .operand suspended current cursor =
      (expression table combine).run .operator suspended (current.addOperand value) after ∧
        after.HasRest rest := by
  induction spelled generalizing suspended current cursor rest with
  | integer content line character =>
      exact Expression.run_single (List.mem_cons_self ..) (by decide) stands
  | @group opening operator closing left right value before behind opens first applied second
      closes built firstRun secondRun =>
      rw [List.cons_append, List.append_assoc, List.cons_append, List.append_assoc] at stands
      obtain ⟨inside, opened, standsFirst⟩ :=
        (expression table combine).run_opening opens stands
      obtain ⟨middle, tookFirst, standsOperator⟩ :=
        firstRun (current :: suspended) {} standsFirst
      obtain ⟨beyond, pushed, standsSecond⟩ :=
        (expression table combine).run_operator applied.1 standsOperator
          (Yard.addOperator_first applied.2 [left])
      obtain ⟨last, tookSecond, standsClosing⟩ :=
        secondRun (current :: suspended) ⟨[operator], [left]⟩ standsSecond
      have finished : Yard.finish combine ⟨[operator], [right, left]⟩ = .ok value {} := by
        rw [Yard.finish_cons, built]
        rfl
      obtain ⟨after, closed, standsRest⟩ :=
        (expression table combine).run_closing closes standsClosing finished
      refine ⟨after, ?_, standsRest⟩
      calc
        (expression table combine).run .operand suspended current cursor =
            (expression table combine).run .operand (current :: suspended) {} inside := opened
        _ = (expression table combine).run .operator (current :: suspended) ⟨[], [left]⟩ middle :=
          tookFirst
        _ = (expression table combine).run .operand (current :: suspended) ⟨[operator], [left]⟩
              beyond := pushed
        _ = (expression table combine).run .operator (current :: suspended)
              ⟨[operator], [right, left]⟩ last := tookSecond
        _ = (expression table combine).run .operator suspended (current.addOperand value) after :=
          closed

/-- The calculator builds the value that the tokens of a text spell. -/
theorem evaluate_of_spells {text : Value} (cut : tokens text = .ok items)
    (spelled : Spells table combine items value) : evaluate table combine text = .ok value := by
  have stands : TokenCursor.HasRest { tokens := items } (items ++ []) := by
    rw [List.append_nil]
    exact TokenCursor.hasRest_start items false
  obtain ⟨after, took, ended⟩ := spelled.run [] {} stands
  have finished : (({} : Yard Value).addOperand value).finish combine = .ok value {} := rfl
  have built : (expression table combine).parse { tokens := items } = .ok value after :=
    took.trans (Expression.run_finished (Expression.operatorNext_end ended) finished)
  simp only [evaluate, cut, bind, Except.bind]
  rw [parse_of_run built, ended.expectEnd_nil]

end Calculator

end Grammar

end Lexwork
