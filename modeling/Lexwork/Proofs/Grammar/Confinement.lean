import Lexwork.Proofs.Grammar.Acceptance

/-!
# Actions that a semicolon confines

No action inside a statement takes a semicolon.  So the tokens before the next
semicolon, and that semicolon itself, decide how such an action ends and where,
whatever stands behind.  This holds of taking single tokens, of actions in
sequence, and of a run over an expression, however many yards it has suspended.
-/

namespace Lexwork

namespace Grammar

/-- What stands next, if anything does, is a token that is not of the given type. -/
def Lacks (wanted : Text) (head : Option Value) : Prop :=
  ∀ item ∈ head, Readable item ∧ ¬ IsOfType wanted item

/-- What stands next, if anything does, is a semicolon. -/
def Barrier (head : Option Value) : Prop :=
  ∀ item ∈ head, Readable item ∧ IsOfType "semicolon" item

theorem barrier_none : Barrier none :=
  nofun

theorem Barrier.lacks {head : Option Value} (barrier : Barrier head) {wanted : Text}
    (apart : "semicolon".toList ≠ wanted) : Lacks wanted head := by
  intro item inside
  obtain ⟨readable, ends⟩ := barrier item inside
  exact ⟨readable, fun other => apart (ends.unique other)⟩

theorem expect_of_lacks {wanted : Text} {cursor : TokenCursor} {rest : List Value}
    (lacks : Lacks wanted rest.head?) (stands : cursor.HasRest rest) :
    TokenCursor.expect (.str wanted) cursor =
      .error (Unexpected.raise (.str wanted) (rest.head?.getD .none) .none .none) cursor := by
  cases rest with
  | nil => exact stands.expect_nil _
  | cons item rest =>
      obtain ⟨⟨content, type, line, character, rfl, _⟩, other⟩ := lacks item rfl
      exact stands.expect_other (not_isOfType_iff_same.mp other)

theorem Lacks.isParsing {wanted : Text} {head : Option Value} (lacks : Lacks wanted head)
    (expected : Text) :
    (Unexpected.raise (.str expected) (head.getD .none) .none .none).isParsing = true := by
  cases head with
  | none => rfl
  | some item =>
      obtain ⟨⟨content, type, line, character, rfl, shown, named, _⟩, _⟩ := lacks item rfl
      exact Unexpected.isParsing_raise (Value.hasText_str expected) shown named line character

/-! ## Actions that a semicolon confines -/

/-- A token inside a statement. -/
def Inner (item : Value) : Prop :=
  Readable item ∧ ¬ IsOfType "semicolon" item

/-- A value as promised, or a failure to recover from. -/
def Recoverable {α : Type} (promise : α → Prop) : Except Fault α → Prop
  | .ok value => promise value
  | .error fault => fault.isParsing = true

inductive Leaves {α : Type} :
    EStateM.Result Fault TokenCursor α → Except Fault α → List Value → Prop
  | ok {value : α} {after : TokenCursor} {rest : List Value} (stands : after.HasRest rest) :
      Leaves (.ok value after) (.ok value) rest
  | error {fault : Fault} {after : TokenCursor} {rest : List Value}
      (stands : after.HasRest rest) :
      Leaves (.error fault after) (.error fault) rest

/--
A body of tokens and the one token behind it decide how an action ends and how
much of the body it leaves.  What else follows does not matter.
-/
def SettledBy {α : Type} (promise : α → Prop) (action : Parser α) (body : List Value)
    (head : Option Value) : Prop :=
  ∃ outcome left, left <:+ body ∧ Recoverable promise outcome ∧
    ∀ tail cursor, tail.head? = head → cursor.HasRest (body ++ tail) →
      Leaves (action cursor) outcome (left ++ tail)

/-- An action that is settled by the tokens before a semicolon or the end. -/
def Confined {α : Type} (promise : α → Prop) (action : Parser α) : Prop :=
  ∀ body head, (∀ item ∈ body, Inner item) → Barrier head → SettledBy promise action body head

section Actions

variable {α β : Type} {promise : α → Prop} {action next : Parser α} {body : List Value}
  {head : Option Value} {item : Value}

theorem SettledBy.value {value : α} (kept : promise value)
    (returns : ∀ tail cursor, tail.head? = head → cursor.HasRest (body ++ tail) →
      action cursor = .ok value cursor) : SettledBy promise action body head := by
  refine ⟨.ok value, body, List.suffix_rfl, kept, ?_⟩
  intro tail cursor starts stands
  rw [returns tail cursor starts stands]
  exact .ok stands

theorem SettledBy.failure {fault : Fault} (parsing : fault.isParsing = true)
    (fails : ∀ tail cursor, tail.head? = head → cursor.HasRest (body ++ tail) →
      action cursor = .error fault cursor) : SettledBy promise action body head := by
  refine ⟨.error fault, body, List.suffix_rfl, parsing, ?_⟩
  intro tail cursor starts stands
  rw [fails tail cursor starts stands]
  exact .error stands

/-- An action that takes a token and goes on is settled if its continuation is. -/
theorem SettledBy.step (later : SettledBy promise next body head)
    (moves : ∀ tail cursor, cursor.HasRest (item :: (body ++ tail)) →
      ∃ after, action cursor = next after ∧ after.HasRest (body ++ tail)) :
    SettledBy promise action (item :: body) head := by
  obtain ⟨outcome, left, suffix, recoverable, ends⟩ := later
  refine ⟨outcome, left, suffix.trans (List.suffix_cons item body), recoverable, ?_⟩
  intro tail cursor starts stands
  obtain ⟨after, moved, behind⟩ := moves tail cursor stands
  rw [moved]
  exact ends tail after starts behind

theorem head?_behind {tail : List Value} (starts : tail.head? = head) :
    (body ++ tail).head? = body.head?.or head := by
  rw [List.head?_append, starts]

theorem settledBy_expect_of_lacks {promise : Value → Prop} {wanted : Text}
    (lacks : Lacks wanted (body.head?.or head)) :
    SettledBy promise (TokenCursor.expect (.str wanted)) body head := by
  refine .failure (lacks.isParsing wanted) ?_
  intro tail cursor starts stands
  rw [← head?_behind starts] at lacks ⊢
  exact expect_of_lacks lacks stands

theorem confined_value {value : α} (kept : promise value)
    (returns : ∀ cursor, action cursor = .ok value cursor) : Confined promise action :=
  fun _ _ _ _ => .value kept fun _ cursor _ _ => returns cursor

/-- Actions in sequence are confined if all of them are. -/
theorem confined_bind {promised : β → Prop} {first : Parser α} {second : α → Parser β}
    (confined : Confined promise first)
    (confines : ∀ value, promise value → Confined promised (second value)) :
    Confined promised (first >>= second) := by
  intro body head inner barrier
  obtain ⟨outcome, left, suffix, recoverable, ends⟩ := confined body head inner barrier
  cases outcome with
  | error fault =>
      refine ⟨.error fault, left, suffix, recoverable, ?_⟩
      intro tail cursor starts stands
      have ended := ends tail cursor starts stands
      simp only [bind, EStateM.bind]
      generalize first cursor = result at ended
      cases ended with
      | error behind => exact .error behind
  | ok value =>
      have innerLeft : ∀ item ∈ left, Inner item := fun item inside =>
        inner item (suffix.subset inside)
      obtain ⟨later, left', suffix', recoverable', ends'⟩ :=
        confines value recoverable left head innerLeft barrier
      refine ⟨later, left', suffix'.trans suffix, recoverable', ?_⟩
      intro tail cursor starts stands
      have ended := ends tail cursor starts stands
      simp only [bind, EStateM.bind]
      generalize first cursor = result at ended
      cases ended with
      | ok behind => exact ends' tail _ starts behind

theorem confined_expect {wanted : Text} (apart : "semicolon".toList ≠ wanted) :
    Confined (IsOfType wanted) (TokenCursor.expect (.str wanted)) := by
  intro body head inner barrier
  cases body with
  | nil => exact settledBy_expect_of_lacks (barrier.lacks apart)
  | cons item body =>
      by_cases typed : IsOfType wanted item
      · refine ⟨.ok item, body, List.suffix_cons item body, typed, ?_⟩
        intro tail cursor _ stands
        obtain ⟨content, line, character, rfl⟩ := typed
        obtain ⟨after, found, behind⟩ := stands.expect_str ((Value.same_str _ _).mpr rfl)
        rw [found]
        exact .ok behind
      · refine settledBy_expect_of_lacks ?_
        intro other isHead
        cases isHead
        exact ⟨(inner item (List.mem_cons_self ..)).1, typed⟩

theorem confined_expectContent {wanted : Text} (apart : "semicolon".toList ≠ wanted) :
    Confined (fun _ => True) (Parser.expectContent (.str wanted)) := by
  refine confined_bind (confined_expect apart) ?_
  rintro _ ⟨content, line, character, rfl⟩
  exact confined_value trivial fun _ => rfl

end Actions

namespace Expression

variable {expression : Expression} {suspended : List (Yard Value)} {current : Yard Value}
  {body : List Value} {head : Option Value}

/-- Where an operand is wanted and none stands next, a run ends there. -/
theorem settledBy_run_operand_of_lacks (integers : "integer".toList ∈ expression.operands)
    (closed : Lacks "open paren" (body.head?.or head))
    (missing : ∀ type ∈ expression.operands, Lacks type (body.head?.or head)) :
    SettledBy (fun _ => True) (expression.run .operand suspended current) body head := by
  refine .failure ((missing _ integers).isParsing "integer") ?_
  intro tail cursor starts stands
  rw [← head?_behind starts] at closed missing ⊢
  have started : expression.startOf cursor = .ok .other := by
    generalize whole : body ++ tail = rest at closed missing stands
    cases rest with
    | nil => exact startOf_end expression stands
    | cons item rest =>
        obtain ⟨⟨content, type, line, character, rfl, _⟩, shut⟩ := closed item rfl
        have none : (expression.operands.any fun operand => type.same (.str operand)) = false := by
          rw [List.any_eq_false]
          intro operand listed
          rw [not_isOfType_iff_same.mp (missing operand listed _ rfl).2]
          exact Bool.false_ne_true
        rw [startOf_token expression stands, not_isOfType_iff_same.mp shut, none]
        rfl
  exact run_missing started (by decide) (expect_of_lacks (missing _ integers) stands)

/-- Behind the operands of an expression, a run ends or wants its parenthesis closed. -/
theorem settledBy_run_operator_of_lacks (total : expression.combine.Total)
    (balanced : Yard.Balanced expression.table 1 current)
    (ended : Lacks "operator" (body.head?.or head))
    (unclosed : suspended = [] ∨ Lacks "close paren" (body.head?.or head)) :
    SettledBy (fun _ => True) (expression.run .operator suspended current) body head := by
  obtain ⟨root, finished⟩ := balanced.finish total
  have looked : ∀ tail cursor, tail.head? = head → cursor.HasRest (body ++ tail) →
      operatorNext cursor = .ok false := by
    intro tail cursor starts stands
    rw [← head?_behind starts] at ended
    generalize whole : body ++ tail = rest at ended stands
    cases rest with
    | nil => exact operatorNext_end stands
    | cons item rest =>
        obtain ⟨⟨content, type, line, character, rfl, _⟩, other⟩ := ended item rfl
        rw [operatorNext_token stands, not_isOfType_iff_same.mp other]
  cases suspended with
  | nil =>
      apply SettledBy.value trivial
      intro tail cursor starts stands
      exact run_finished (looked tail cursor starts stands) finished
  | cons outer inner =>
      rcases unclosed with impossible | unclosed
      · cases impossible
      refine .failure (unclosed.isParsing "close paren") ?_
      intro tail cursor starts stands
      have refused := expect_of_lacks (head?_behind starts ▸ unclosed) stands
      rw [head?_behind starts] at refused
      exact run_unclosed (looked tail cursor starts stands) finished refused

/-- An operator is pushed if the table has it, and is reported behind it otherwise. -/
theorem settledBy_run_operator_token {text : Text} {line character : Value}
    (numeric : expression.table.Numeric) (total : expression.combine.Total)
    (balanced : Yard.Balanced expression.table 1 current)
    (pushed : ∀ yard, Yard.Balanced expression.table 0 yard →
      SettledBy (fun _ => True) (expression.run .operand suspended yard) body head) :
    SettledBy (fun _ => True) (expression.run .operator suspended current)
      (.token (.str text) "operator" line character :: body) head := by
  by_cases known : expression.table.Knows (.token (.str text) "operator" line character)
  · obtain ⟨yard, added, kept⟩ := balanced.addOperator numeric total known
    exact (pushed yard kept).step fun _ _ stands =>
      run_operator ⟨_, _, _, rfl⟩ stands added
  · refine ⟨.error (Yard.unknownOperator (.token (.str text) "operator" line character)),
      body, List.suffix_cons _ body, rfl, ?_⟩
    intro tail cursor _ stands
    have looked : operatorNext cursor = .ok true := by
      rw [operatorNext_token stands, (Value.same_str _ _).mpr rfl]
    rw [run_rejected looked stands.next (Yard.addOperator_unknown rfl known)]
    exact .error stands.skip

/-- A run never takes a semicolon, whatever it has suspended. -/
theorem confined_run (numeric : expression.table.Numeric) (total : expression.combine.Total)
    (integers : "integer".toList ∈ expression.operands)
    (apart : "semicolon".toList ∉ expression.operands) {phase : Phase}
    (waiting : ∀ yard ∈ suspended, Yard.Balanced expression.table 0 yard)
    (balanced : Yard.Balanced expression.table (surplus phase) current) :
    Confined (fun _ => True) (expression.run phase suspended current) := by
  intro body head inner barrier
  induction body generalizing phase suspended current with
  | nil =>
      have lacks (type : Text) (other : "semicolon".toList ≠ type) : Lacks type head :=
        barrier.lacks other
      cases phase with
      | operand =>
          refine settledBy_run_operand_of_lacks integers (lacks _ (by decide)) ?_
          intro type listed
          exact lacks type fun same => apart (same ▸ listed)
      | operator =>
          exact settledBy_run_operator_of_lacks total balanced (lacks _ (by decide))
            (.inr (lacks _ (by decide)))
  | cons item body ih =>
      have later : ∀ item ∈ body, Inner item :=
        fun item inside => inner item (List.mem_cons_of_mem _ inside)
      obtain ⟨readable, _⟩ := inner item (List.mem_cons_self ..)
      have lacks (type : Text) (other : ¬ IsOfType type item) :
          Lacks type ((item :: body).head?.or head) := by
        intro first isHead
        cases isHead
        exact ⟨readable, other⟩
      obtain ⟨content, type, line, character, rfl, _, _, texts⟩ := readable
      cases phase with
      | operand =>
          by_cases opens : IsOfType "open paren" (.token content type line character)
          · have deeper : ∀ yard ∈ current :: suspended, Yard.Balanced expression.table 0 yard := by
              intro yard inside
              rcases List.mem_cons.mp inside with rfl | inSuspended
              · exact balanced
              · exact waiting yard inSuspended
            exact (ih deeper (Yard.balanced_empty _) later).step fun _ _ stands =>
              run_opening opens stands
          · by_cases atom : ∃ operand ∈ expression.operands, type = .str operand
            · obtain ⟨operand, listed, rfl⟩ := atom
              have single : operand ≠ "open paren" := by
                rintro rfl
                exact opens ⟨_, _, _, rfl⟩
              have taken : SettledBy (fun _ => True)
                  (expression.run .operator suspended (current.addOperand content)) body head :=
                ih waiting (balanced.addOperand content) later
              exact taken.step fun _ _ stands => run_single listed single stands
            · refine settledBy_run_operand_of_lacks integers (lacks _ opens) ?_
              rintro operand listed
              refine lacks operand ?_
              rintro ⟨_, _, _, same⟩
              exact atom ⟨operand, listed, (Value.token.inj same).2.1⟩
      | operator =>
          by_cases between : IsOfType "operator" (.token content type line character)
          · obtain ⟨_, _, _, same⟩ := between
            have typed : type = "operator" := (Value.token.inj same).2.1
            obtain ⟨text, rfl⟩ := texts typed
            subst typed
            exact settledBy_run_operator_token numeric total balanced fun yard kept =>
              ih waiting kept later
          · cases suspended with
            | nil =>
                exact settledBy_run_operator_of_lacks total balanced (lacks _ between) (.inl rfl)
            | cons outer suspended =>
                by_cases closes : IsOfType "close paren" (.token content type line character)
                · obtain ⟨root, finished⟩ := balanced.finish total
                  have waitingRest : ∀ yard ∈ suspended, Yard.Balanced expression.table 0 yard :=
                    fun yard inside => waiting yard (List.mem_cons_of_mem _ inside)
                  have resumed : SettledBy (fun _ => True)
                      (expression.run .operator suspended (outer.addOperand root)) body head :=
                    ih waitingRest ((waiting outer (List.mem_cons_self ..)).addOperand root) later
                  exact resumed.step fun _ _ stands => run_closing closes stands finished
                · exact settledBy_run_operator_of_lacks total balanced (lacks _ between)
                    (.inr (lacks _ closes))

theorem confined_parse (expression : Expression) (numeric : expression.table.Numeric)
    (total : expression.combine.Total) (integers : "integer".toList ∈ expression.operands)
    (apart : "semicolon".toList ∉ expression.operands) :
    Confined (fun _ => True) expression.parse :=
  confined_run numeric total integers apart (fun _ inside => absurd inside List.not_mem_nil)
    (Yard.balanced_empty _)

end Expression

end Grammar

end Lexwork
