import Lexwork.Grammar.Calculator
import Lexwork.Proofs.Cursor.Rest
import Lexwork.Proofs.Grammar.Sentence
import Lexwork.Proofs.Operator.Balance

/-!
# What the parser of expressions accepts

A run over tokens follows the reading of a sentence: it takes a token exactly if
the reading can move over it, with one suspended yard for each open
parenthesis.  All yards of a run are balanced, so none of them ever fails.  The
run stops at the first token that the reading cannot move over, or reports the
end if the reading is not complete there.
-/

namespace Lexwork

namespace Grammar

/-- A token as lexers make them: it can be shown, and the content of an operator is a text. -/
def Readable (item : Value) : Prop :=
  ∃ content type line character, item = .token content type line character ∧
    content.HasText ∧ type.HasText ∧ (type = "operator" → ∃ text, content = .str text)

@[simp] theorem readable_text (text type : Text) (line character : Value) :
    Readable (.token (.str text) (.str type) line character) :=
  ⟨.str text, .str type, line, character, rfl, Value.hasText_str text, Value.hasText_str type,
    fun _ => ⟨text, rfl⟩⟩

theorem readable_typed {content : Value} {type : Text} (shown : content.HasText)
    (plain : type ≠ "operator") (line character : Value) :
    Readable (.token content (.str type) line character) :=
  ⟨content, .str type, line, character, rfl, shown, Value.hasText_str type,
    fun same => absurd (Value.str.inj same) plain⟩

namespace Expression

variable {expression : Expression} {suspended : List (Yard Value)} {current : Yard Value}
  {cursor after : TokenCursor} {item content root : Value} {fault : Fault}

theorem run_group (started : expression.startOf cursor = .ok .group)
    (opened : TokenCursor.expect "open paren" cursor = .ok item after) :
    expression.run .operand suspended current cursor =
      expression.run .operand (current :: suspended) {} after := by
  conv => lhs; rw [run]
  simp only [started]
  split
  · rename_i failed
    cases opened.symm.trans failed
  · rename_i taken
    cases opened.symm.trans taken
    rfl

theorem run_atom {start : Start} (started : expression.startOf cursor = .ok start)
    (single : start ≠ .group) (taken : takeAtom start cursor = .ok item after)
    (read : TokenCursor.contentOf item = .ok content) :
    expression.run .operand suspended current cursor =
      expression.run .operator suspended (current.addOperand content) after := by
  conv => lhs; rw [run]
  simp only [started]
  split
  · rename_i failed
    cases taken.symm.trans failed
  · rename_i found
    cases taken.symm.trans found
    simp only [read]

theorem run_missing {start : Start} (started : expression.startOf cursor = .ok start)
    (single : start ≠ .group) (failed : takeAtom start cursor = .error fault after) :
    expression.run .operand suspended current cursor = .error fault after := by
  conv => lhs; rw [run]
  simp only [started]
  split
  · rename_i found
    cases failed.symm.trans found
    rfl
  · rename_i found
    cases failed.symm.trans found

theorem run_pushed {pushed : Yard Value} (looked : operatorNext cursor = .ok true)
    (taken : TokenCursor.next cursor = .ok item after)
    (added : current.addOperator expression.table expression.combine item = .ok () pushed) :
    expression.run .operator suspended current cursor =
      expression.run .operand suspended pushed after := by
  conv => lhs; rw [run]
  simp only [looked]
  split
  · rename_i failed
    cases taken.symm.trans failed
  · rename_i found
    cases taken.symm.trans found
    simp only [added]

theorem run_rejected {left : Yard Value} (looked : operatorNext cursor = .ok true)
    (taken : TokenCursor.next cursor = .ok item after)
    (failed : current.addOperator expression.table expression.combine item = .error fault left) :
    expression.run .operator suspended current cursor = .error fault after := by
  conv => lhs; rw [run]
  simp only [looked]
  split
  · rename_i missed
    cases taken.symm.trans missed
  · rename_i found
    cases taken.symm.trans found
    simp only [failed]

theorem run_finished {left : Yard Value} (looked : operatorNext cursor = .ok false)
    (finished : current.finish expression.combine = .ok root left) :
    expression.run .operator [] current cursor = .ok root cursor := by
  conv => lhs; rw [run]
  simp only [looked, finished]

theorem run_closed {left outer : Yard Value} (looked : operatorNext cursor = .ok false)
    (finished : current.finish expression.combine = .ok root left)
    (closed : TokenCursor.expect "close paren" cursor = .ok item after) :
    expression.run .operator (outer :: suspended) current cursor =
      expression.run .operator suspended (outer.addOperand root) after := by
  conv => lhs; rw [run]
  simp only [looked, finished]
  split
  · rename_i failed
    cases closed.symm.trans failed
  · rename_i found
    cases closed.symm.trans found
    rfl

theorem run_unclosed {left outer : Yard Value} (looked : operatorNext cursor = .ok false)
    (finished : current.finish expression.combine = .ok root left)
    (failed : TokenCursor.expect "close paren" cursor = .error fault after) :
    expression.run .operator (outer :: suspended) current cursor = .error fault after := by
  conv => lhs; rw [run]
  simp only [looked, finished]
  split
  · rename_i found
    cases failed.symm.trans found
    rfl
  · rename_i found
    cases failed.symm.trans found

theorem run_unfinished {left : Yard Value} (looked : operatorNext cursor = .ok false)
    (failed : current.finish expression.combine = .error fault left) :
    expression.run .operator suspended current cursor = .error fault cursor := by
  conv => lhs; rw [run]
  simp only [looked, failed]

theorem startOf_end (expression : Expression) (stands : cursor.HasRest []) :
    expression.startOf cursor = .ok .other := by
  rw [startOf, stands.atEnd_nil]
  rfl

theorem operatorNext_end (stands : cursor.HasRest []) : operatorNext cursor = .ok false := by
  rw [operatorNext, stands.atEnd_nil]
  rfl

section Tokens

variable {type line character : Value} {rest : List Value}

theorem startOf_token (expression : Expression)
    (stands : cursor.HasRest (.token content type line character :: rest)) :
    expression.startOf cursor =
      .ok (if type.same "open paren" then .group
        else if expression.operands.any fun operand => type.same (.str operand) then .atom
        else .other) := by
  rw [startOf, stands.atEnd_cons, stands.peekType]
  rfl

theorem operatorNext_token
    (stands : cursor.HasRest (.token content type line character :: rest)) :
    operatorNext cursor = .ok (type.same "operator") := by
  rw [operatorNext, stands.atEnd_cons]
  exact stands.looksAt "operator"

end Tokens

/-! ## Taking a token -/

section Taking

variable {rest : List Value}

theorem run_opening (opens : IsOfType "open paren" item) (stands : cursor.HasRest (item :: rest)) :
    ∃ after, expression.run .operand suspended current cursor =
      expression.run .operand (current :: suspended) {} after ∧ after.HasRest rest := by
  obtain ⟨content, line, character, rfl⟩ := opens
  have same : (Value.str "open paren").same "open paren" = true := (Value.same_str _ _).mpr rfl
  obtain ⟨after, found, behind⟩ := stands.expect_str same
  refine ⟨after, run_group ?_ found, behind⟩
  rw [startOf_token expression stands, same]
  rfl

theorem run_single {type : Text} {line character : Value} (listed : type ∈ expression.operands)
    (single : type ≠ "open paren")
    (stands : cursor.HasRest (.token content (.str type) line character :: rest)) :
    ∃ after, expression.run .operand suspended current cursor =
      expression.run .operator suspended (current.addOperand content) after ∧
        after.HasRest rest := by
  have shut : (Value.str type).same "open paren" = false := by
    rw [Bool.eq_false_iff]
    intro same
    exact single (Value.str.inj ((Value.same_str _ _).mp same))
  have found : (expression.operands.any fun operand => (Value.str type).same (.str operand)) =
      true := List.any_eq_true.mpr ⟨type, listed, (Value.same_str _ _).mpr rfl⟩
  have started : expression.startOf cursor = .ok .atom := by
    rw [startOf_token expression stands, shut, found]
    rfl
  exact ⟨cursor.skip, run_atom started (by decide) stands.next rfl, stands.skip⟩

theorem run_operator {pushed : Yard Value} (typed : IsOfType "operator" item)
    (stands : cursor.HasRest (item :: rest))
    (added : current.addOperator expression.table expression.combine item = .ok () pushed) :
    ∃ after, expression.run .operator suspended current cursor =
      expression.run .operand suspended pushed after ∧ after.HasRest rest := by
  obtain ⟨content, line, character, rfl⟩ := typed
  refine ⟨cursor.skip, run_pushed ?_ stands.next added, stands.skip⟩
  rw [operatorNext_token stands, (Value.same_str _ _).mpr rfl]

theorem run_closing {left outer : Yard Value} (closes : IsOfType "close paren" item)
    (stands : cursor.HasRest (item :: rest))
    (finished : current.finish expression.combine = .ok root left) :
    ∃ after, expression.run .operator (outer :: suspended) current cursor =
      expression.run .operator suspended (outer.addOperand root) after ∧ after.HasRest rest := by
  obtain ⟨content, line, character, rfl⟩ := closes
  obtain ⟨after, found, behind⟩ := stands.expect_str ((Value.same_str _ _).mpr rfl)
  refine ⟨after, run_closed ?_ finished found, behind⟩
  rw [operatorNext_token stands]
  rfl

end Taking

/-! ## A run follows the reading -/

/-- The surplus of operands in the current yard of a run. -/
def surplus : Phase → Nat
  | .operand => 0
  | .operator => 1

/--
How a run ends.  It builds a value from a reading to the end of a sentence, with
no operator behind it; or it refuses a token that the reading cannot move over,
having taken it if it is an operator; or it misses a token at the end of a
reading that is not complete.
-/
inductive Ends (atoms : List Text) (table : Table) (phase : Phase) (depth : Nat)
    (rest : List Value) : EStateM.Result Fault TokenCursor Value → Prop
  | value {read left : List Value} {root : Value} {after : TokenCursor}
      (split : rest = read ++ left) (path : Path atoms table phase depth read .operator 0)
      (stands : after.HasRest left) (stops : ∀ item ∈ left.head?, ¬ IsOfType "operator" item) :
      Ends atoms table phase depth rest (.ok root after)
  | refused {read later : List Value} {item : Value} {report : Unexpected} {after : TokenCursor}
      {last : Phase} {final : Nat} (split : rest = read ++ item :: later)
      (path : Path atoms table phase depth read last final)
      (stuck : ∀ next within, ¬ Move atoms table last final item next within)
      (named : report.token = item)
      (stands : after.HasRest (item :: later) ∨
        IsOfType "operator" item ∧ after.HasRest later) :
      Ends atoms table phase depth rest (.error (.unexpected report) after)
  | ended {report : Unexpected} {after : TokenCursor} {last : Phase} {final : Nat}
      (path : Path atoms table phase depth rest last final)
      (incomplete : ¬ (last = .operator ∧ final = 0))
      (unnamed : report.token = .none) (found : report.found = "EOF")
      (stands : after.HasRest []) :
      Ends atoms table phase depth rest (.error (.unexpected report) after)

section Ends

variable {atoms : List Text} {table : Table} {phase : Phase} {depth : Nat} {rest : List Value}

/-- A move in front of a run prolongs its reading. -/
theorem Ends.move {next : Phase} {within : Nat}
    {result : EStateM.Result Fault TokenCursor Value}
    (first : Move atoms table phase depth item next within)
    (ends : Ends atoms table next within rest result) :
    Ends atoms table phase depth (item :: rest) result := by
  cases ends with
  | value split path stands stops =>
      exact .value (congrArg (List.cons item) split) (.move first path) stands stops
  | refused split path stuck named stands =>
      exact .refused (congrArg (List.cons item) split) (.move first path) stuck named stands
  | ended path incomplete unnamed found stands =>
      exact .ended (.move first path) incomplete unnamed found stands

/-- A run that reports the token before it refuses that token. -/
theorem Ends.here
    (stuck : ∀ next within, ¬ Move atoms table phase depth item next within)
    (reported : ∃ report : Unexpected, fault = .unexpected report ∧ report.token = item)
    (stands : after.HasRest (item :: rest) ∨ IsOfType "operator" item ∧ after.HasRest rest) :
    Ends atoms table phase depth (item :: rest) (.error fault after) := by
  obtain ⟨report, rfl, named⟩ := reported
  exact .refused (List.nil_append _).symm (.done phase depth) stuck named stands

theorem Ends.atEnd {expected : Text} (incomplete : ¬ (phase = .operator ∧ depth = 0))
    (stands : after.HasRest []) :
    Ends atoms table phase depth []
      (.error (Unexpected.raise (.str expected) .none .none .none) after) := by
  obtain ⟨report, raised, unnamed, found⟩ := Unexpected.raise_end (Value.hasText_str expected)
  rw [raised]
  exact .ended (.done phase depth) incomplete unnamed found stands

end Ends

/-- Where an operand is wanted, a run takes an atom or an opening parenthesis. -/
theorem ends_run_operand_token {type line character : Value} {rest : List Value}
    (integers : "integer".toList ∈ expression.operands) (shown : content.HasText)
    (named : type.HasText)
    (stands : cursor.HasRest (.token content type line character :: rest))
    (opened : ∀ after, after.HasRest rest →
      Ends expression.operands expression.table .operand (suspended.length + 1) rest
        (expression.run .operand (current :: suspended) {} after))
    (taken : ∀ after, after.HasRest rest →
      Ends expression.operands expression.table .operator suspended.length rest
        (expression.run .operator suspended (current.addOperand content) after)) :
    Ends expression.operands expression.table .operand suspended.length
      (.token content type line character :: rest)
      (expression.run .operand suspended current cursor) := by
  have started := startOf_token expression stands
  cases isOpening : type.same "open paren" with
  | true =>
      have typed := (Value.same_str type _).mp isOpening
      obtain ⟨after, found, behind⟩ := stands.expect_str isOpening
      rw [isOpening, if_pos rfl] at started
      rw [run_group started found]
      exact (opened after behind).move (.opening ⟨content, line, character, by rw [typed]⟩)
  | false =>
      cases isAtom : expression.operands.any fun operand => type.same (.str operand) with
      | true =>
          obtain ⟨operand, listed, same⟩ := List.any_eq_true.mp isAtom
          have typed := (Value.same_str type operand).mp same
          rw [isOpening, isAtom, if_neg Bool.false_ne_true, if_pos rfl] at started
          rw [run_atom started (by decide) stands.next rfl]
          exact (taken _ stands.skip).move
            (.atom listed ⟨content, line, character, by rw [typed]⟩)
      | false =>
          have unlisted : ∀ operand ∈ expression.operands, type.same (.str operand) = false := by
            simpa using isAtom
          rw [isOpening, isAtom, if_neg Bool.false_ne_true, if_neg Bool.false_ne_true] at started
          rw [run_missing started (by decide) (stands.expect_other (unlisted _ integers))]
          refine .here ?_ (Unexpected.raise_token (Value.hasText_str _) shown named ..)
            (.inl stands)
          intro next within move
          rcases move.of_operand with opens | ⟨operand, listed, typed⟩
          · exact not_isOfType_iff_same.mpr isOpening opens
          · exact not_isOfType_iff_same.mpr (unlisted operand listed) typed

/-- An operator token is pushed if the table has it, and refused otherwise. -/
theorem ends_run_operator_known {text : Text} {line character : Value} {rest : List Value}
    (numeric : expression.table.Numeric) (total : expression.combine.Total)
    (balanced : Yard.Balanced expression.table 1 current)
    (stands : cursor.HasRest (.token (.str text) "operator" line character :: rest))
    (pushed : ∀ yard after, Yard.Balanced expression.table 0 yard → after.HasRest rest →
      Ends expression.operands expression.table .operand suspended.length rest
        (expression.run .operand suspended yard after)) :
    Ends expression.operands expression.table .operator suspended.length
      (.token (.str text) "operator" line character :: rest)
      (expression.run .operator suspended current cursor) := by
  have typed : IsOfType "operator" (.token (.str text) "operator" line character) :=
    ⟨_, _, _, rfl⟩
  have looked : operatorNext cursor = .ok true := by
    rw [operatorNext_token stands, (Value.same_str _ _).mpr rfl]
  by_cases known : expression.table.Knows (.token (.str text) "operator" line character)
  · obtain ⟨yard, added, kept⟩ := balanced.addOperator numeric total known
    rw [run_pushed looked stands.next added]
    exact (pushed yard _ kept stands.skip).move (.binary ⟨typed, known⟩)
  · rw [run_rejected looked stands.next (Yard.addOperator_unknown rfl known)]
    refine .here ?_ ⟨_, rfl, rfl⟩ (.inr ⟨typed, stands.skip⟩)
    intro next within move
    rcases move.of_operator with ⟨_, present⟩ | ⟨closes, _⟩
    · exact known present
    · exact absurd (typed.unique closes) (by decide)

/-- Behind an operand, anything but an operator ends the innermost expression. -/
theorem ends_run_operator_other {type line character : Value} {rest : List Value}
    (shown : content.HasText) (named : type.HasText)
    (total : expression.combine.Total) (balanced : Yard.Balanced expression.table 1 current)
    (waiting : ∀ yard ∈ suspended, Yard.Balanced expression.table 0 yard)
    (other : type.same "operator" = false)
    (stands : cursor.HasRest (.token content type line character :: rest))
    (closed : ∀ outer inner yard after, suspended = outer :: inner →
      Yard.Balanced expression.table 1 yard → after.HasRest rest →
      Ends expression.operands expression.table .operator inner.length rest
        (expression.run .operator inner yard after)) :
    Ends expression.operands expression.table .operator suspended.length
      (.token content type line character :: rest)
      (expression.run .operator suspended current cursor) := by
  have looked : operatorNext cursor = .ok false := by
    rw [operatorNext_token stands, other]
  have noOperator : ¬ IsOfType "operator" (.token content type line character) :=
    not_isOfType_iff_same.mpr other
  obtain ⟨root, finished⟩ := balanced.finish total
  cases suspended with
  | nil =>
      rw [run_finished looked finished]
      refine .value (List.nil_append _).symm (.done _ _) stands ?_
      intro item isHead
      cases isHead
      exact noOperator
  | cons outer inner =>
      cases isClosing : type.same "close paren" with
      | true =>
          have typed := (Value.same_str type _).mp isClosing
          obtain ⟨after, found, behind⟩ := stands.expect_str isClosing
          have resumed := (waiting outer (List.mem_cons_self ..)).addOperand root
          rw [run_closed looked finished found]
          exact (closed outer inner _ after rfl resumed behind).move
            (.closing ⟨content, line, character, by rw [typed]⟩)
      | false =>
          rw [run_unclosed looked finished (stands.expect_other isClosing)]
          refine .here ?_ (Unexpected.raise_token (Value.hasText_str _) shown named ..)
            (.inl stands)
          intro next within move
          rcases move.of_operator with between | ⟨closes, _⟩
          · exact noOperator between.1
          · exact not_isOfType_iff_same.mpr isClosing closes

/-- A run over tokens ends as the reading of them says. -/
theorem ends_run (numeric : expression.table.Numeric) (total : expression.combine.Total)
    (integers : "integer".toList ∈ expression.operands) {phase : Phase} {rest : List Value}
    (readable : ∀ item ∈ rest, Readable item)
    (waiting : ∀ yard ∈ suspended, Yard.Balanced expression.table 0 yard)
    (balanced : Yard.Balanced expression.table (surplus phase) current)
    (stands : cursor.HasRest rest) :
    Ends expression.operands expression.table phase suspended.length rest
      (expression.run phase suspended current cursor) := by
  induction rest generalizing phase suspended current cursor with
  | nil =>
      cases phase with
      | operand =>
          rw [run_missing (startOf_end expression stands) (by decide) (stands.expect_nil _)]
          exact .atEnd (by simp) stands
      | operator =>
          obtain ⟨root, finished⟩ := balanced.finish total
          cases suspended with
          | nil =>
              rw [run_finished (operatorNext_end stands) finished]
              exact .value rfl (.done _ _) stands (by simp)
          | cons outer inner =>
              rw [run_unclosed (operatorNext_end stands) finished (stands.expect_nil _)]
              exact .atEnd (by simp) stands
  | cons item rest ih =>
      obtain ⟨content, type, line, character, rfl, shown, named, texts⟩ :=
        readable item (List.mem_cons_self ..)
      have later : ∀ item ∈ rest, Readable item :=
        fun item inside => readable item (List.mem_cons_of_mem _ inside)
      cases phase with
      | operand =>
          apply ends_run_operand_token integers shown named stands
          · intro after behind
            have deeper : ∀ yard ∈ current :: suspended, Yard.Balanced expression.table 0 yard := by
              intro yard inside
              rcases List.mem_cons.mp inside with rfl | inSuspended
              · exact balanced
              · exact waiting yard inSuspended
            exact ih later deeper (Yard.balanced_empty _) behind
          · intro after behind
            exact ih later waiting (balanced.addOperand content) behind
      | operator =>
          cases isOperator : type.same "operator" with
          | true =>
              have typed := (Value.same_str type _).mp isOperator
              obtain ⟨text, rfl⟩ := texts typed
              subst typed
              apply ends_run_operator_known numeric total balanced stands
              intro yard after kept behind
              exact ih later waiting kept behind
          | false =>
              apply ends_run_operator_other shown named total balanced waiting isOperator stands
              intro outer inner yard after shape kept behind
              subst shape
              exact ih later (fun yard inside => waiting yard (List.mem_cons_of_mem _ inside))
                kept behind

theorem ends_parse (expression : Expression) (numeric : expression.table.Numeric)
    (total : expression.combine.Total) (integers : "integer".toList ∈ expression.operands)
    {rest : List Value} (readable : ∀ item ∈ rest, Readable item)
    (stands : cursor.HasRest rest) :
    Ends expression.operands expression.table .operand 0 rest (expression.parse cursor) := by
  have waiting : ∀ yard ∈ ([] : List (Yard Value)), Yard.Balanced expression.table 0 yard :=
    fun _ inside => absurd inside List.not_mem_nil
  exact ends_run numeric total integers readable waiting (Yard.balanced_empty _) stands

end Expression

namespace Calculator

/-- The first token of a list that no sentence can have there. -/
def FirstRefused (table : Table) (items : List Value) (item : Value) : Prop :=
  ∃ read later, items = read ++ item :: later ∧ Viable ["integer"] table read ∧
    ¬ Viable ["integer"] table (read ++ [item])

theorem firstRefused_of_stuck {table : Table} {read later : List Value} {item : Value}
    {last : Phase} {final : Nat}
    (path : Path ["integer"] table .operand 0 read last final)
    (stuck : ∀ next within, ¬ Move ["integer"] table last final item next within) :
    FirstRefused table (read ++ item :: later) item := by
  refine ⟨read, later, rfl, ?_, ?_⟩
  · exact (viable_iff_path (List.mem_cons_self ..)).mpr ⟨last, final, path⟩
  · intro viable
    obtain ⟨phase, depth, longer⟩ := (viable_iff_path (List.mem_cons_self ..)).mp viable
    obtain ⟨middle, within, before, behind⟩ := longer.split
    obtain ⟨rfl, rfl⟩ := path.unique (by decide) before
    cases behind with
    | move first rest => exact stuck _ _ first

theorem FirstRefused.not_sentence {table : Table} {items : List Value} {item : Value}
    (refused : FirstRefused table items item) : ¬ Sentence ["integer"] table items := by
  obtain ⟨read, later, rfl, _, unviable⟩ := refused
  intro sentence
  exact unviable ⟨later, by simpa using sentence⟩

/-- Behind a value of the whole expression the calculator wants the end. -/
theorem parse_of_run {table : Table} {combine : Combine Value} {cursor after : TokenCursor}
    {root : Value} (ran : (expression table combine).parse cursor = .ok root after) :
    parse table combine cursor =
      match after.expectEnd with
      | .ok _ => .ok root after
      | .error fault => .error fault after := by
  simp only [parse, bind, EStateM.bind, ran, Parser.read]
  cases after.expectEnd with
  | error fault => rfl
  | ok _ => rfl

theorem parse_of_run_error {table : Table} {combine : Combine Value}
    {cursor after : TokenCursor} {fault : Fault}
    (ran : (expression table combine).parse cursor = .error fault after) :
    parse table combine cursor = .error fault after := by
  simp only [parse, bind, EStateM.bind, ran]

/-- Either the tokens are a sentence and a tree is built, or the first token at fault is named. -/
theorem parse_sentence_or_refused {table : Table} (numeric : table.Numeric)
    {tokens : List Value} (readable : ∀ item ∈ tokens, Readable item) {cursor : TokenCursor}
    (stands : cursor.HasRest tokens) :
    (∃ tree after, parse table Combine.node cursor = .ok tree after ∧
      Sentence ["integer"] table tokens) ∨
    ∃ report after, parse table Combine.node cursor = .error (.unexpected report) after ∧
      ¬ Sentence ["integer"] table tokens ∧
      (FirstRefused table tokens report.token ∨
        report.token = .none ∧ report.found = "EOF" ∧ Viable ["integer"] table tokens) := by
  have ends : Expression.Ends ["integer"] table .operand 0 tokens
      ((expression table Combine.node).parse cursor) :=
    (expression table Combine.node).ends_parse numeric Combine.node_total
      (List.mem_cons_self ..) readable stands
  generalize ran : (expression table Combine.node).parse cursor = result at ends
  cases ends with
  | @value read left root after split path behind stops =>
      have parsed := parse_of_run ran
      cases left with
      | nil =>
          rw [behind.expectEnd_nil] at parsed
          rw [List.append_nil] at split
          subst split
          exact .inl ⟨root, after, parsed, sentence_iff_path.mpr path⟩
      | cons item later =>
          rw [behind.expectEnd_cons] at parsed
          obtain ⟨content, type, line, character, shape, shown, typed, _⟩ :=
            readable item (by simp [split])
          obtain ⟨report, raised, named⟩ :=
            Unexpected.raise_token (Value.hasText_str _) shown typed line character
          have stuck : ∀ next within,
              ¬ Move ["integer"] table .operator 0 item next within := by
            intro next within move
            exact stops item rfl move.isOperator_of_zero.1
          have refused : FirstRefused table tokens item := by
            rw [split]
            exact firstRefused_of_stuck path stuck
          subst shape
          rw [raised] at parsed
          exact .inr ⟨report, after, parsed, refused.not_sentence, .inl (named ▸ refused)⟩
  | @refused read later item report after last final split path stuck named behind =>
      have refused : FirstRefused table tokens item := by
        rw [split]
        exact firstRefused_of_stuck path stuck
      exact .inr ⟨report, after, parse_of_run_error ran, refused.not_sentence,
        .inl (named ▸ refused)⟩
  | @ended report after last final path incomplete unnamed found behind =>
      have unfinished : ¬ Sentence ["integer"] table tokens := by
        intro sentence
        exact incomplete (path.unique (by decide) (sentence_iff_path.mp sentence))
      have viable : Viable ["integer"] table tokens :=
        (viable_iff_path (List.mem_cons_self ..)).mpr ⟨last, final, path⟩
      exact .inr ⟨report, after, parse_of_run_error ran, unfinished,
        .inr ⟨unnamed, found, viable⟩⟩

/--
The calculator builds a tree from exactly the sentences.  From any other list of
tokens it reports the first token that no sentence can have there, or the end if
the whole list starts a sentence.
-/
theorem parse_iff_sentence (table : Table) (numeric : table.Numeric) (tokens : List Value)
    (readable : ∀ item ∈ tokens, Readable item) (debug : Bool) :
    ((∃ tree after, parse table Combine.node { tokens := tokens, debug := debug } =
        .ok tree after) ↔ Sentence ["integer"] table tokens) ∧
    (¬ Sentence ["integer"] table tokens →
      ∃ report after, parse table Combine.node { tokens := tokens, debug := debug } =
          .error (.unexpected report) after ∧
        (FirstRefused table tokens report.token ∨
          report.token = .none ∧ report.found = "EOF" ∧ Viable ["integer"] table tokens)) := by
  have stands := TokenCursor.hasRest_start tokens debug
  rcases parse_sentence_or_refused numeric readable stands with
    ⟨tree, after, parsed, sentence⟩ | ⟨report, after, parsed, unfinished, reason⟩
  · exact ⟨⟨fun _ => sentence, fun _ => ⟨tree, after, parsed⟩⟩, fun other => absurd sentence other⟩
  · refine ⟨⟨?_, fun sentence => absurd sentence unfinished⟩,
      fun _ => ⟨report, after, parsed, reason⟩⟩
    rintro ⟨tree, other, built⟩
    rw [parsed] at built
    cases built

theorem parse_iff_sentence_group :
    Table.arithmetic.Numeric ∧
      ∃ tree after, parse Table.arithmetic Combine.node
        { tokens :=
            [.token "(" "open paren" (.int 1) (.int 1), .token (.int 1) "integer" (.int 1) (.int 2),
              .token "-" "operator" (.int 1) (.int 3), .token (.int 2) "integer" (.int 1) (.int 4),
              .token ")" "close paren" (.int 1) (.int 5)],
          debug := true } = .ok tree after := by
  have numeric : Table.arithmetic.Numeric := by
    simp [Table.Numeric, Table.arithmetic, Value.number?]
  have opening : IsOfType "open paren" (.token "(" "open paren" (.int 1) (.int 1)) :=
    ⟨_, _, _, rfl⟩
  have closing : IsOfType "close paren" (.token ")" "close paren" (.int 1) (.int 5)) :=
    ⟨_, _, _, rfl⟩
  have minus : IsOperator Table.arithmetic (.token "-" "operator" (.int 1) (.int 3)) :=
    ⟨⟨_, _, _, rfl⟩, .int 1, rfl⟩
  have integer (n character : Int) :
      Operand ["integer"] Table.arithmetic [.token (.int n) "integer" (.int 1) (.int character)] :=
    .atom (List.mem_cons_self ..) ⟨_, _, _, rfl⟩
  have sentence :=
    Sentence.operand (.group opening (.binary (.operand (integer 1 2)) minus (integer 2 4)) closing)
  refine ⟨numeric, (parse_iff_sentence Table.arithmetic numeric _ ?_ true).1.mpr sentence⟩
  intro item inside
  simp only [List.mem_cons, List.not_mem_nil, or_false] at inside
  rcases inside with rfl | rfl | rfl | rfl | rfl
  · exact readable_text ..
  · exact readable_typed ⟨_, rfl⟩ (by decide) ..
  · exact readable_text ..
  · exact readable_typed ⟨_, rfl⟩ (by decide) ..
  · exact readable_text ..

end Calculator

end Grammar

end Lexwork
