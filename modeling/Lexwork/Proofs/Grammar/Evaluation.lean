import Lexwork.Proofs.Grammar.Acceptance
import Lexwork.Proofs.Grammar.CalculatorLexer
import Lexwork.Proofs.Grammar.Parentheses
import Lexwork.Proofs.Operator.Postorder

/-!
# Evaluating while parsing

A calculator that computes with every reduction gives what the tree of the same
tokens computes to, failures included.  The run that computes is followed beside
the run that builds: its yards hold the values of the trees in the yards of the
other, the suspended ones included, outermost first.
-/

namespace Lexwork

namespace Grammar

namespace Expression

variable {expression : Expression} {suspended : List (Yard Value)} {current : Yard Value}
  {cursor after : TokenCursor}

/-- A taken operand is one of the items, which stay as they are. -/
theorem mem_of_takeAtom {start : Start} {item : Value}
    (taken : takeAtom start cursor = .ok item after) :
    item ∈ cursor.tokens ∧ after.tokens = cursor.tokens := by
  cases start with
  | group => exact TokenCursor.mem_of_expect taken
  | atom => exact TokenCursor.mem_of_next taken
  | other => exact TokenCursor.mem_of_expect taken

/-- No content of a token is a node of a tree. -/
def PlainContents (items : List Value) : Prop :=
  ∀ item ∈ items, ∀ content, TokenCursor.contentOf item = .ok content → content.IsPlain

/-- The expressions of the same tokens that build something else. -/
def building (expression : Expression) (combine : Combine Value) : Expression :=
  { expression with combine := combine }

/-- How the run that computes ends, from where the run that builds stands. -/
def beside (expression : Expression) (combine : Combine Value) (phase : Phase)
    (suspended : List (Yard Value)) (current : Yard Value) (cursor : TokenCursor) :
    Except Fault (Value × TokenCursor) := do
  let waiting ← Yard.mapStack (Yard.computed combine) suspended
  let working ← Yard.computed combine current
  Yard.returned ((expression.building combine).run phase waiting working cursor)

section Rounds

variable {combine : Combine Value} {item content root : Value}

theorem beside_group (started : expression.startOf cursor = .ok .group)
    (opened : TokenCursor.expect "open paren" cursor = .ok item after) :
    expression.beside combine .operand suspended current cursor =
      expression.beside combine .operand (current :: suspended) {} after := by
  rw [beside, beside, Yard.mapStack]
  cases Yard.mapStack (Yard.computed combine) suspended with
  | error fault => rfl
  | ok waiting =>
      cases Yard.computed combine current with
      | error fault => rfl
      | ok working => exact congrArg Yard.returned (run_group started opened)

theorem beside_atom {start : Start} (started : expression.startOf cursor = .ok start)
    (single : start ≠ .group) (taken : takeAtom start cursor = .ok item after)
    (read : TokenCursor.contentOf item = .ok content) (plain : content.IsPlain) :
    expression.beside combine .operand suspended current cursor =
      expression.beside combine .operator suspended (current.addOperand content) after := by
  rw [beside, beside, Yard.computed_addOperand, plain.compute]
  cases Yard.mapStack (Yard.computed combine) suspended with
  | error fault => rfl
  | ok waiting =>
      cases Yard.computed combine current with
      | error fault => rfl
      | ok working => exact congrArg Yard.returned (run_atom started single taken read)

theorem beside_pushed {pushed : Yard Value} (looked : operatorNext cursor = .ok true)
    (taken : TokenCursor.next cursor = .ok item after)
    (added : current.addOperator expression.table Combine.node item = .ok () pushed) :
    expression.beside combine .operator suspended current cursor =
      expression.beside combine .operand suspended pushed after := by
  rw [beside, beside, Yard.computed_addOperator added]
  cases Yard.mapStack (Yard.computed combine) suspended with
  | error fault => rfl
  | ok waiting =>
      cases Yard.computed combine current with
      | error fault => rfl
      | ok working =>
          cases addedHere : working.addOperator expression.table combine item with
          | error fault left =>
              have refused : (expression.building combine).run .operator waiting working cursor =
                  .error fault after := run_rejected looked taken addedHere
              simp only [bind, Except.bind, refused, addedHere, Yard.returned]
          | ok _ pushedHere =>
              have moved : (expression.building combine).run .operator waiting working cursor =
                  (expression.building combine).run .operand waiting pushedHere after :=
                run_pushed looked taken addedHere
              simp only [bind, Except.bind, moved, addedHere, Yard.returned]

theorem beside_finished {left : Yard Value} (looked : operatorNext cursor = .ok false)
    (finished : current.finish Combine.node = .ok root left) :
    expression.beside combine .operator [] current cursor =
      root.compute combine >>= fun value => .ok (value, cursor) := by
  rw [beside, Yard.computed_finish finished]
  cases Yard.computed combine current with
  | error fault => rfl
  | ok working =>
      cases finishedHere : working.finish combine with
      | error fault left =>
          have failed : (expression.building combine).run .operator [] working cursor =
              .error fault cursor := run_unfinished looked finishedHere
          simp only [bind, Except.bind, Yard.mapStack, failed, finishedHere, Yard.returned]
      | ok value left =>
          have ended : (expression.building combine).run .operator [] working cursor =
              .ok value cursor := run_finished looked finishedHere
          simp only [bind, Except.bind, Yard.mapStack, ended, finishedHere, Yard.returned]

theorem beside_closed {left outer : Yard Value} (looked : operatorNext cursor = .ok false)
    (finished : current.finish Combine.node = .ok root left)
    (closed : TokenCursor.expect "close paren" cursor = .ok item after) :
    expression.beside combine .operator (outer :: suspended) current cursor =
      expression.beside combine .operator suspended (outer.addOperand root) after := by
  rw [beside, beside, Yard.computed_addOperand, Yard.computed_finish finished, Yard.mapStack]
  cases Yard.mapStack (Yard.computed combine) suspended with
  | error fault => rfl
  | ok waiting =>
      cases Yard.computed combine outer with
      | error fault => rfl
      | ok resumed =>
          cases Yard.computed combine current with
          | error fault => rfl
          | ok working =>
              cases finishedHere : working.finish combine with
              | error fault left =>
                  have failed : (expression.building combine).run .operator (resumed :: waiting)
                      working cursor = .error fault cursor := run_unfinished looked finishedHere
                  simp only [bind, Except.bind, pure, Except.pure, failed, finishedHere,
                    Yard.returned]
              | ok value left =>
                  have moved : (expression.building combine).run .operator (resumed :: waiting)
                        working cursor =
                      (expression.building combine).run .operator waiting
                        (resumed.addOperand value) after :=
                    run_closed looked finishedHere closed
                  simp only [bind, Except.bind, pure, Except.pure, moved, finishedHere,
                    Yard.returned]

end Rounds

/-- The run that computes ends as the tree of the run that builds computes. -/
theorem beside_eq_compute (nodes : expression.combine = Combine.node) (combine : Combine Value)
    {phase : Phase} {tree : Value} (plain : PlainContents cursor.tokens)
    (built : expression.run phase suspended current cursor = .ok tree after) :
    expression.beside combine phase suspended current cursor =
      tree.compute combine >>= fun value => .ok (value, after) := by
  fun_induction expression.run phase suspended current cursor with
  | case1 => cases built
  | case2 => cases built
  | case3 suspended current cursor started item opening opened ih =>
      obtain ⟨_, kept⟩ := TokenCursor.mem_of_expect opened
      rw [beside_group started opened]
      exact ih (kept ▸ plain) built
  | case4 => cases built
  | case5 => cases built
  | case6 suspended current cursor start single started item behind taken content read ih =>
      obtain ⟨inside, kept⟩ := mem_of_takeAtom taken
      rw [beside_atom started single taken read (plain item inside content read)]
      exact ih (kept ▸ plain) built
  | case7 => cases built
  | case8 => cases built
  | case9 => cases built
  | case10 suspended current cursor looked item behind taken _ pushed added ih =>
      obtain ⟨_, kept⟩ := TokenCursor.mem_of_next taken
      rw [nodes] at added
      rw [beside_pushed looked taken added]
      exact ih (kept ▸ plain) built
  | case11 => cases built
  | case12 current cursor looked root left finished =>
      cases built
      rw [nodes] at finished
      exact beside_finished looked finished
  | case13 => cases built
  | case14 current cursor looked root left finished outer rest item behind closed ih =>
      obtain ⟨_, kept⟩ := TokenCursor.mem_of_expect closed
      rw [nodes] at finished
      rw [beside_closed looked finished closed]
      exact ih (kept ▸ plain) built

end Expression

namespace Calculator

open Standard (blankPiece integerPiece)

variable {table : Table} {cursor after : TokenCursor} {tree : Value}

theorem plainContents_tokens {text : Value} {items : List Value} (cut : tokens text = .ok items) :
    Expression.PlainContents items := by
  intro item inside content read
  obtain ⟨token, rfl, kinds⟩ := content_of_mem_tokens cut inside
  cases read
  rcases kinds with ⟨n, shape⟩ | ⟨piece, shape⟩
  · rw [shape]
    exact fun _ _ _ same => nomatch same
  · rw [shape]
    exact fun _ _ _ same => nomatch same

/-- A tree is built only if the expression ends where the tokens do. -/
theorem parse_eq_ok {combine : Combine Value}
    (parsed : parse table combine cursor = .ok tree after) :
    (expression table combine).parse cursor = .ok tree after ∧ after.expectEnd = .ok () := by
  cases ran : (expression table combine).parse cursor with
  | error fault left =>
      rw [parse_of_run_error ran] at parsed
      cases parsed
  | ok root left =>
      rw [parse_of_run ran] at parsed
      cases ended : left.expectEnd with
      | error fault =>
          rw [ended] at parsed
          cases parsed
      | ok _ =>
          rw [ended] at parsed
          cases parsed
          exact ⟨rfl, ended⟩

/-- What the calculator makes of the tokens of a tree is what the tree computes to. -/
theorem returned_parse (combine : Combine Value) (plain : Expression.PlainContents cursor.tokens)
    (parsed : parse table Combine.node cursor = .ok tree after) :
    Yard.returned (parse table combine cursor) =
      tree.compute combine >>= fun value => .ok (value, after) := by
  obtain ⟨built, ended⟩ := parse_eq_ok parsed
  have nodes : (expression table Combine.node).combine = Combine.node := rfl
  have beside : Yard.returned ((expression table combine).parse cursor) =
      tree.compute combine >>= fun value => .ok (value, after) :=
    Expression.beside_eq_compute nodes combine plain built
  cases ran : (expression table combine).parse cursor with
  | error fault left =>
      rw [ran] at beside
      rw [parse_of_run_error ran]
      exact beside
  | ok value left =>
      rw [ran] at beside
      cases computes : tree.compute combine with
      | error fault =>
          rw [computes] at beside
          cases beside
      | ok other =>
          rw [computes] at beside
          cases beside
          rw [parse_of_run ran, ended]
          rfl

theorem evaluate_of_tokens {combine : Combine Value} {text : Value} {items : List Value}
    (cut : tokens text = .ok items) :
    evaluate table combine text =
      Yard.returned (parse table combine { tokens := items }) >>= fun result => .ok result.1 := by
  simp only [evaluate, cut, bind, Except.bind]
  cases parse table combine { tokens := items } with
  | error fault left => rfl
  | ok value left => rfl

/-- What a text evaluates to is what the tree of the text computes to. -/
theorem evaluate_eq_compute (combine : Combine Value) {text : Value}
    (built : evaluate table Combine.node text = .ok tree) :
    evaluate table combine text = tree.compute combine := by
  cases cut : tokens text with
  | error fault =>
      rw [evaluate, cut] at built
      cases built
  | ok items =>
      rw [evaluate_of_tokens cut] at built
      cases parsed : parse table Combine.node { tokens := items } with
      | error fault left =>
          rw [parsed] at built
          cases built
      | ok root left =>
          rw [parsed] at built
          cases built
          rw [evaluate_of_tokens cut, returned_parse combine (plainContents_tokens cut) parsed,
            bind_assoc]
          exact bind_pure _

/--
Evaluating while parsing is parsing and then evaluating.  If a text builds a
tree, then computing with the text gives what computing with the tree in
post-order gives, the first failure included.  Whatever is built of an infix
sequence of known operators, these are applied in the post-order of its tree.
-/
theorem evaluate_in_postorder (table : Table) (numeric : table.Numeric) :
    (∀ text tree, evaluate table Combine.node text = .ok tree →
      evaluate table Combine.arithmetic text = tree.compute Combine.arithmetic) ∧
    ∀ first pairs, (∀ pair ∈ pairs, table.Knows pair.1) →
      ∃ tree : Tree Value, tree.operands = first :: pairs.map Prod.snd ∧
        Yard.assemble table Combine.node first pairs {} = .ok tree.value {} ∧
        ∀ combine : Combine Value,
          Yard.Settles (Yard.assemble table combine first pairs {}) (tree.fold combine) :=
  ⟨fun _ _ built => evaluate_eq_compute Combine.arithmetic built,
    fun first pairs known => Yard.settles_fold table numeric first pairs known⟩

theorem evaluate_in_postorder_quotient :
    Table.arithmetic.Numeric ∧
      evaluate Table.arithmetic Combine.arithmetic "(1 / 0)" = .error .divisionByZero ∧
      ∃ tree : Tree Value, tree.operands = [.int 1, .int 0] ∧
        Yard.Settles
          (Yard.assemble Table.arithmetic Combine.arithmetic (.int 1) [("/", .int 0)] {})
          (tree.fold Combine.arithmetic) := by
  have taken : Lexer.TakesAll definitions
      [openingPiece, integerPiece 1, blankPiece, operatorPiece '/', blankPiece, integerPiece 0,
        closingPiece] [] := by
    refine ⟨takes_openingPiece,
      Standard.takes_integerPiece (integer_comesFirst rfl) (by decide) ?_,
      Standard.takes_blankPiece blank_comesFirst rfl, takes_operatorPiece (by decide) rfl,
      Standard.takes_blankPiece blank_comesFirst rfl,
      Standard.takes_integerPiece (integer_comesFirst rfl) (by decide) ?_, takes_closingPiece,
      trivial⟩
    · rintro c ⟨⟩
      rfl
    · rintro c ⟨⟩
      rfl
  have cut : tokens "(1 / 0)" =
      .ok [.token "(" "open paren" (.int 1) (.int 1), .token (.int 1) "integer" (.int 1) (.int 2),
        .token "/" "operator" (.int 1) (.int 4), .token (.int 0) "integer" (.int 1) (.int 6),
        .token ")" "close paren" (.int 1) (.int 7)] := tokens_textOf taken
  have divides : IsOperator Table.arithmetic (.token "/" "operator" (.int 1) (.int 4)) :=
    ⟨⟨_, _, _, rfl⟩, .int 2, rfl⟩
  have built : evaluate Table.arithmetic Combine.node "(1 / 0)" =
      .ok (.node (.token "/" "operator" (.int 1) (.int 4)) (.int 1) (.int 0)) :=
    evaluate_of_spells cut (.group ⟨_, _, _, rfl⟩ (.integer _ _ _) divides (.integer _ _ _)
      ⟨_, _, _, rfl⟩ rfl)
  obtain ⟨parsed, sequenced⟩ := evaluate_in_postorder Table.arithmetic Table.arithmetic_numeric
  obtain ⟨tree, operands, _, settles⟩ := sequenced (.int 1) [("/", .int 0)]
    (List.forall_mem_singleton.mpr ⟨.int 2, rfl⟩)
  exact ⟨Table.arithmetic_numeric, parsed _ _ built, tree, operands, settles Combine.arithmetic⟩

end Calculator

end Grammar

end Lexwork
