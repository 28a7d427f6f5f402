import Lexwork.Grammar.ListLiteral
import Lexwork.Proofs.Cursor.Reading
import Lexwork.Proofs.Grammar.Sentence

/-!
# What the parser of list literals accepts

A list literal is a row of groups in square brackets, where a group is an integer with
an optional comma behind it.  Its parser accepts exactly the list literals and hands
over the contents of their integers.  Wherever the tokens leave that shape or end, the
parser gives up in a way that its caller may recover from.
-/

namespace Lexwork

namespace Grammar

namespace ListLiteral

/-- Integers, each with an optional comma behind it. -/
inductive Groups : List Value → Prop
  | none : Groups []
  | group {integer : Value} {comma : Option Value} {more : List Value}
      (first : IsOfType "integer" integer) (optional : ∀ item ∈ comma, IsOfType "comma" item)
      (rest : Groups more) : Groups (integer :: (comma.toList ++ more))

/-- Groups in square brackets. -/
inductive IsLiteral : List Value → Prop
  | brackets {opening closing : Value} {items : List Value}
      (opens : IsOfType "open square bracket" opening) (inner : Groups items)
      (closes : IsOfType "close square bracket" closing) :
      IsLiteral (opening :: (items ++ [closing]))

/-- The content of an integer token. -/
def integer? : Value → Option Value
  | .token content (.str type) _ _ => if type = "integer".toList then some content else none
  | _ => none

def integersOf (items : List Value) : List Value :=
  items.filterMap integer?

theorem integer?_eq_none {type : Text} {item : Value} (typed : IsOfType type item)
    (other : type ≠ "integer".toList) : integer? item = none := by
  obtain ⟨content, line, character, rfl⟩ := typed
  exact if_neg other

theorem integersOf_group {content line character : Value} {comma : Option Value}
    {more : List Value} (optional : ∀ item ∈ comma, IsOfType "comma" item) :
    integersOf (.token content "integer" line character :: (comma.toList ++ more)) =
      content :: integersOf more := by
  have here : integer? (.token content "integer" line character) = some content := by
    rw [integer?, if_pos rfl]
  rw [integersOf, List.filterMap_cons_some here]
  cases comma with
  | none => rfl
  | some item =>
      rw [Option.toList_some, List.singleton_append,
        List.filterMap_cons_none (integer?_eq_none (optional item rfl) (by decide))]
      rfl

theorem integersOf_brackets {opening closing : Value} {items : List Value}
    (opens : IsOfType "open square bracket" opening)
    (closes : IsOfType "close square bracket" closing) :
    integersOf (opening :: (items ++ [closing])) = integersOf items := by
  rw [integersOf, List.filterMap_cons_none (integer?_eq_none opens (by decide)),
    List.filterMap_append, List.filterMap_cons_none (integer?_eq_none closes (by decide)),
    List.filterMap_nil, List.append_nil, integersOf]

/-- An action that was given up, in a way that a parser may recover from. -/
def GivesUp {α : Type} (result : EStateM.Result Fault TokenCursor α) : Prop :=
  ∃ fault after, result = .error fault after ∧ fault.isParsing = true

section Tokens

variable {cursor : TokenCursor} {item : Value} {rest : List Value}

theorem looksAt_of_isOfType {type wanted : Text} (typed : IsOfType type item)
    (stands : cursor.HasRest (item :: rest)) :
    cursor.looksAt (.str wanted) = .ok (type == wanted) := by
  obtain ⟨content, line, character, rfl⟩ := typed
  rw [stands.looksAt]
  rfl

theorem looksAt_of_isToken (wanted : Text) (token : item.IsToken)
    (stands : cursor.HasRest (item :: rest)) :
    (IsOfType wanted item ∧ cursor.looksAt (.str wanted) = .ok true) ∨
      (¬ IsOfType wanted item ∧ cursor.looksAt (.str wanted) = .ok false) := by
  obtain ⟨content, type, line, character, rfl⟩ := token
  rw [stands.looksAt]
  cases same : type.same (.str wanted) with
  | true => exact .inl ⟨isOfType_iff_same.mpr same, rfl⟩
  | false => exact .inr ⟨not_isOfType_iff_same.mpr same, rfl⟩

theorem looksAt_nil (stands : cursor.HasRest []) (wanted : Value) :
    cursor.looksAt wanted = .error (.parsing .nothingToPeek) := by
  rw [TokenCursor.looksAt, TokenCursor.peekType, stands.peek_nil]
  rfl

theorem expect_of_isOfType {wanted : Text} (typed : IsOfType wanted item)
    (stands : cursor.HasRest (item :: rest)) :
    ∃ after, TokenCursor.expect (.str wanted) cursor = .ok item after ∧ after.HasRest rest := by
  obtain ⟨content, line, character, rfl⟩ := typed
  exact stands.expect_str ((Value.same_str _ _).mpr rfl)

/-- The next token is taken if it has the wanted type; otherwise the parser gives up. -/
theorem expect_or_givesUp (wanted : Text) (areTokens : ∀ item ∈ rest, item.IsReadableToken)
    (stands : cursor.HasRest rest) :
    (∃ item more after, rest = item :: more ∧ IsOfType wanted item ∧
        TokenCursor.expect (.str wanted) cursor = .ok item after ∧ after.HasRest more) ∨
      GivesUp (TokenCursor.expect (.str wanted) cursor) := by
  cases rest with
  | nil => exact .inr ⟨_, _, stands.expect_nil _, rfl⟩
  | cons item rest =>
      obtain ⟨content, type, line, character, rfl, shown, named⟩ :=
        areTokens item (List.mem_cons_self ..)
      cases same : type.same (.str wanted) with
      | true =>
          obtain ⟨after, taken, behind⟩ := stands.expect_str same
          exact .inl ⟨_, rest, after, rfl, isOfType_iff_same.mpr same, taken, behind⟩
      | false =>
          exact .inr ⟨_, _, stands.expect_other same,
            Unexpected.isParsing_raise (Value.hasText_str wanted) shown named ..⟩

end Tokens

/-! ## Groups -/

section Groups

variable {cursor after : TokenCursor} {content line character : Value} {rest more : List Value}

/-- Behind its integer, an element is what skipping a comma makes of it. -/
theorem element_of_integer
    (taken : TokenCursor.expect "integer" cursor =
      .ok (.token content "integer" line character) after) :
    element cursor =
      match skipComma after with
      | .ok _ behind => .ok content behind
      | .error fault behind => .error fault behind := by
  simp only [element, Parser.expectContent, Parser.read, bind, EStateM.bind, taken,
    TokenCursor.contentOf]
  cases skipComma after with
  | ok _ behind => rfl
  | error fault behind => rfl

theorem element_givesUp (failed : GivesUp (TokenCursor.expect "integer" cursor)) :
    GivesUp (element cursor) := by
  obtain ⟨fault, after, failed, parsing⟩ := failed
  refine ⟨fault, after, ?_, parsing⟩
  simp only [element, Parser.expectContent, bind, EStateM.bind, failed]

theorem skipComma_nil (stands : cursor.HasRest []) : GivesUp (skipComma cursor) := by
  refine ⟨.parsing .nothingToPeek, cursor, ?_, rfl⟩
  simp only [skipComma, Parser.read, bind, EStateM.bind, looksAt_nil stands]

theorem skipComma_comma {comma : Value} (typed : IsOfType "comma" comma)
    (stands : cursor.HasRest (comma :: rest)) :
    ∃ after, skipComma cursor = .ok () after ∧ after.HasRest rest := by
  have looked : cursor.looksAt "comma" = .ok true := looksAt_of_isOfType typed stands
  obtain ⟨after, taken, behind⟩ := expect_of_isOfType typed stands
  refine ⟨after, ?_, behind⟩
  simp only [skipComma, Parser.read, bind, EStateM.bind, looked, if_true, taken]
  rfl

theorem skipComma_other {item : Value} (token : item.IsToken) (other : ¬ IsOfType "comma" item)
    (stands : cursor.HasRest (item :: rest)) : skipComma cursor = .ok () cursor := by
  have looked : cursor.looksAt "comma" = .ok false := by
    rcases looksAt_of_isToken "comma" token stands with ⟨typed, _⟩ | ⟨_, looked⟩
    · exact absurd typed other
    · exact looked
  simp only [skipComma, Parser.read, bind, EStateM.bind, looked, Bool.false_eq_true, if_false]
  rfl

/-- A group is parsed if a token stands behind it that is not a comma. -/
theorem element_group {next : Value} {comma : Option Value}
    (optional : ∀ item ∈ comma, IsOfType "comma" item) (token : next.IsToken)
    (other : ¬ IsOfType "comma" next)
    (stands : cursor.HasRest
      (.token content "integer" line character :: (comma.toList ++ next :: rest))) :
    ∃ after, element cursor = .ok content after ∧ after.HasRest (next :: rest) := by
  obtain ⟨behind, taken, stands⟩ := expect_of_isOfType ⟨content, line, character, rfl⟩ stands
  rw [element_of_integer taken]
  cases comma with
  | none =>
      rw [skipComma_other token other stands]
      exact ⟨behind, rfl, stands⟩
  | some comma =>
      obtain ⟨after, skipped, stands⟩ := skipComma_comma (optional comma rfl) stands
      rw [skipped]
      exact ⟨after, rfl, stands⟩

/-- An element takes a group off the tokens, or the parser gives up. -/
theorem element_or_givesUp (areTokens : ∀ item ∈ rest, item.IsReadableToken)
    (stands : cursor.HasRest rest) :
    (∃ content line character more after, ∃ comma : Option Value,
        rest = .token content "integer" line character :: (comma.toList ++ more) ∧
        (∀ item ∈ comma, IsOfType "comma" item) ∧
        element cursor = .ok content after ∧ after.HasRest more) ∨
      GivesUp (element cursor) := by
  rcases expect_or_givesUp "integer" areTokens stands with
    ⟨_, more, behind, rfl, ⟨content, line, character, rfl⟩, taken, stands⟩ | failed
  · rw [element_of_integer taken]
    cases more with
    | nil =>
        obtain ⟨fault, after, failed, parsing⟩ := skipComma_nil stands
        rw [failed]
        exact .inr ⟨fault, after, rfl, parsing⟩
    | cons next more =>
        have token : next.IsToken := (areTokens next (by simp)).isToken
        by_cases typed : IsOfType "comma" next
        · obtain ⟨after, skipped, stands⟩ := skipComma_comma typed stands
          rw [skipped]
          refine .inl ⟨content, line, character, more, after, some next, rfl, ?_, rfl, stands⟩
          rintro _ ⟨⟩
          exact typed
        · rw [skipComma_other token typed stands]
          exact .inl ⟨content, line, character, next :: more, behind, none, rfl, nofun, rfl,
            stands⟩
  · exact .inr (element_givesUp failed)

theorem elements_nil (stands : cursor.HasRest []) : GivesUp (elements cursor) := by
  refine ⟨.parsing .nothingToPeek, cursor, ?_, rfl⟩
  rw [elements]
  simp only [looksAt_nil stands]

theorem elements_closing (looked : cursor.looksAt "close square bracket" = .ok true) :
    elements cursor = .ok [] cursor := by
  rw [elements]
  simp only [looked]

/-- Before anything but a closing bracket, the elements are one and the elements behind it. -/
theorem elements_element (looked : cursor.looksAt "close square bracket" = .ok false)
    (parsed : element cursor = .ok content after) :
    elements cursor =
      match elements after with
      | .error fault last => .error fault last
      | .ok contents last => .ok (content :: contents) last := by
  conv => lhs; rw [elements]
  simp only [looked]
  split
  · rename_i failed
    cases parsed.symm.trans failed
  · rename_i found
    cases parsed.symm.trans found
    rfl

theorem elements_givesUp (looked : cursor.looksAt "close square bracket" = .ok false)
    (failed : GivesUp (element cursor)) : GivesUp (elements cursor) := by
  obtain ⟨fault, after, failed, parsing⟩ := failed
  refine ⟨fault, after, ?_, parsing⟩
  rw [elements]
  simp only [looked]
  split
  · rename_i found
    cases failed.symm.trans found
    rfl
  · rename_i found
    cases failed.symm.trans found

/-- What follows an element inside brackets is no comma: another integer or the closing bracket. -/
theorem Groups.head_closing {items : List Value} (groups : Groups items) {closing : Value}
    (closes : IsOfType "close square bracket" closing) (more : List Value) :
    ∃ next behind, items ++ closing :: more = next :: behind ∧ next.IsToken ∧
      ¬ IsOfType "comma" next := by
  cases groups with
  | none =>
      obtain ⟨content, line, character, rfl⟩ := closes
      refine ⟨_, more, rfl, ⟨_, _, _, _, rfl⟩, fun comma => ?_⟩
      exact absurd (comma.unique ⟨content, line, character, rfl⟩) (by decide)
  | group first optional rest =>
      obtain ⟨content, line, character, rfl⟩ := first
      refine ⟨_, _, rfl, ⟨_, _, _, _, rfl⟩, fun comma => ?_⟩
      exact absurd (comma.unique ⟨content, line, character, rfl⟩) (by decide)

theorem elements_groups {items : List Value} (groups : Groups items) {closing : Value}
    (closes : IsOfType "close square bracket" closing)
    (stands : cursor.HasRest (items ++ closing :: more)) :
    ∃ after, elements cursor = .ok (integersOf items) after ∧ after.HasRest (closing :: more) := by
  induction groups generalizing cursor with
  | none => exact ⟨cursor, elements_closing (looksAt_of_isOfType closes stands), stands⟩
  | @group integer comma rest first optional groups ih =>
      obtain ⟨next, behind, follows, token, other⟩ := groups.head_closing closes more
      have shape : integer :: (comma.toList ++ rest) ++ closing :: more =
          integer :: (comma.toList ++ next :: behind) := by
        rw [← follows, List.cons_append, List.append_assoc]
      rw [shape] at stands
      have looked : cursor.looksAt "close square bracket" = .ok false :=
        looksAt_of_isOfType first stands
      obtain ⟨content, line, character, rfl⟩ := first
      obtain ⟨after, parsed, stands⟩ := element_group optional token other stands
      obtain ⟨last, run, closed⟩ := ih (follows ▸ stands)
      refine ⟨last, ?_, closed⟩
      rw [elements_element looked parsed, run]
      exact congrArg (EStateM.Result.ok · last) (integersOf_group optional).symm

/-- The elements from a cursor on are groups up to a closing bracket, which is left. -/
def ReadsGroups (cursor : TokenCursor) (rest : List Value) : Prop :=
  ∃ items closing more after, rest = items ++ closing :: more ∧ Groups items ∧
    IsOfType "close square bracket" closing ∧
    elements cursor = .ok (integersOf items) after ∧ after.HasRest (closing :: more)

/-- A group is read in front of groups that are read. -/
theorem ReadsGroups.group {comma : Option Value} (reads : ReadsGroups after rest)
    (looked : cursor.looksAt "close square bracket" = .ok false)
    (parsed : element cursor = .ok content after)
    (optional : ∀ item ∈ comma, IsOfType "comma" item) :
    ReadsGroups cursor (.token content "integer" line character :: (comma.toList ++ rest)) := by
  obtain ⟨items, closing, more, last, rfl, groups, closes, run, closed⟩ := reads
  refine ⟨_, closing, more, last, ?_, .group ⟨content, line, character, rfl⟩ optional groups,
    closes, ?_, closed⟩
  · rw [List.cons_append, List.append_assoc]
  · rw [elements_element looked parsed, run, integersOf_group optional]

theorem GivesUp.group (failed : GivesUp (elements after))
    (looked : cursor.looksAt "close square bracket" = .ok false)
    (parsed : element cursor = .ok content after) : GivesUp (elements cursor) := by
  obtain ⟨fault, last, failed, parsing⟩ := failed
  exact ⟨fault, last, by rw [elements_element looked parsed, failed], parsing⟩

/-- Elements are groups up to a closing bracket, or the parser gives up. -/
theorem elements_or_givesUp (areTokens : ∀ item ∈ rest, item.IsReadableToken)
    (stands : cursor.HasRest rest) : ReadsGroups cursor rest ∨ GivesUp (elements cursor) := by
  -- The induction is on the tokens left: every element takes some of them.
  generalize left : rest.length = size
  induction size using Nat.strongRecOn generalizing cursor rest with
  | ind size ih =>
      cases rest with
      | nil => exact .inr (elements_nil stands)
      | cons next behind =>
          have token : next.IsToken := (areTokens next (List.mem_cons_self ..)).isToken
          rcases looksAt_of_isToken "close square bracket" token stands with
            ⟨closes, looked⟩ | ⟨_, looked⟩
          · exact .inl ⟨[], next, behind, cursor, rfl, .none, closes, elements_closing looked,
              stands⟩
          rcases element_or_givesUp areTokens stands with
            ⟨content, line, character, more, after, comma, split, optional, parsed, stands⟩ | failed
          · have shorter : more.length < size := by
              rw [← left, split]
              simp only [List.length_cons, List.length_append]
              omega
            have later : ∀ item ∈ more, item.IsReadableToken := by
              intro item inside
              refine areTokens item ?_
              rw [split]
              exact List.mem_cons_of_mem _ (List.mem_append_right _ inside)
            rw [split]
            exact (ih more.length shorter later stands rfl).imp
              (·.group looked parsed optional) (·.group looked parsed)
          · exact .inr (elements_givesUp looked failed)

end Groups

section Parse

variable {cursor : TokenCursor} {tokens : List Value}

theorem parse_of_isLiteral (literal : IsLiteral tokens) (stands : cursor.HasRest tokens) :
    ∃ after, parse cursor = .ok (integersOf tokens) after := by
  obtain ⟨opens, inner, closes⟩ := literal
  obtain ⟨start, opened, stands⟩ := expect_of_isOfType opens stands
  obtain ⟨behind, run, stands⟩ := elements_groups inner closes stands
  obtain ⟨after, closed, stands⟩ := expect_of_isOfType closes stands
  refine ⟨after, ?_⟩
  rw [integersOf_brackets opens closes]
  simp only [parse, bind, EStateM.bind, opened, run, closed, Parser.read, stands.expectEnd_nil]
  rfl

/-- A list literal is accepted, or the parser gives up. -/
theorem isLiteral_or_givesUp (areTokens : ∀ item ∈ tokens, item.IsReadableToken)
    (stands : cursor.HasRest tokens) : IsLiteral tokens ∨ GivesUp (parse cursor) := by
  rcases expect_or_givesUp "open square bracket" areTokens stands with
    ⟨opening, rest, start, rfl, opens, opened, stands⟩ | ⟨fault, after, failed, parsing⟩
  · have inner : ∀ item ∈ rest, item.IsReadableToken :=
      fun item inside => areTokens item (List.mem_cons_of_mem _ inside)
    rcases elements_or_givesUp inner stands with
      ⟨items, closing, more, behind, rfl, groups, closes, run, stands⟩ |
        ⟨fault, after, failed, parsing⟩
    · obtain ⟨after, closed, stands⟩ := expect_of_isOfType closes stands
      cases more with
      | nil => exact .inl (.brackets opens groups closes)
      | cons item more =>
          obtain ⟨content, type, line, character, rfl, shown, named⟩ := inner item (by simp)
          refine .inr ⟨_, after, ?_,
            Unexpected.isParsing_raise (Value.hasText_str "EOF") shown named line character⟩
          simp only [parse, bind, EStateM.bind, opened, run, closed, Parser.read,
            stands.expectEnd_cons]
    · refine .inr ⟨fault, after, ?_, parsing⟩
      simp only [parse, bind, EStateM.bind, opened, failed]
  · refine .inr ⟨fault, after, ?_, parsing⟩
    simp only [parse, bind, EStateM.bind, failed]

theorem isParsing_iff {fault : Fault} :
    fault.isParsing = true ↔
      (∃ cause, fault = .parsing cause) ∨ ∃ report, fault = .unexpected report := by
  cases fault <;> simp [Fault.isParsing]

/--
The parser of list literals returns exactly on the list literals, and what it returns
are the contents of their integer tokens in order.  On every other list of tokens it
fails as parsers do, by a fault of structure or a report of an unexpected token.
-/
theorem parse_iff_literal (tokens : List Value) (areTokens : ∀ item ∈ tokens, item.IsReadableToken)
    (debug : Bool) :
    (∀ contents, (∃ after, parse { tokens := tokens, debug := debug } = .ok contents after) ↔
      IsLiteral tokens ∧ contents = integersOf tokens) ∧
    (¬ IsLiteral tokens →
      ∃ fault after, parse { tokens := tokens, debug := debug } = .error fault after ∧
        ((∃ cause, fault = .parsing cause) ∨ ∃ report, fault = .unexpected report)) := by
  have stands := TokenCursor.hasRest_start tokens debug
  rcases isLiteral_or_givesUp areTokens stands with literal | ⟨fault, last, failed, parsing⟩
  · obtain ⟨last, parsed⟩ := parse_of_isLiteral literal stands
    refine ⟨fun contents => ⟨?_, ?_⟩, fun other => absurd literal other⟩
    · rintro ⟨after, returned⟩
      cases parsed.symm.trans returned
      exact ⟨literal, rfl⟩
    · rintro ⟨_, rfl⟩
      exact ⟨last, parsed⟩
  · refine ⟨fun contents => ⟨?_, ?_⟩, fun _ => ⟨fault, last, failed, isParsing_iff.mp parsing⟩⟩
    · rintro ⟨after, returned⟩
      cases failed.symm.trans returned
    · rintro ⟨literal, _⟩
      obtain ⟨after, parsed⟩ := parse_of_isLiteral literal stands
      cases failed.symm.trans parsed

/-- The tokens of two integers without a comma between them and with one behind them. -/
def looseTokens : List Value :=
  [.token "[" "open square bracket" (.int 1) (.int 1), .token (.int 1) "integer" (.int 1) (.int 2),
    .token (.int 2) "integer" (.int 1) (.int 4), .token "," "comma" (.int 1) (.int 5),
    .token "]" "close square bracket" (.int 1) (.int 6)]

/-- A comma may be missing between two integers and stand behind the last one. -/
theorem parse_iff_literal_commas :
    (∀ item ∈ looseTokens, item.IsReadableToken) ∧ IsLiteral looseTokens ∧
      ∃ after, parse { tokens := looseTokens, debug := true } = .ok [.int 1, .int 2] after := by
  have areTokens : ∀ item ∈ looseTokens, item.IsReadableToken := by
    intro item inside
    simp only [looseTokens, List.mem_cons, List.not_mem_nil, or_false] at inside
    rcases inside with rfl | rfl | rfl | rfl | rfl <;>
      exact ⟨_, _, _, _, rfl, ⟨_, rfl⟩, ⟨_, rfl⟩⟩
  have last : Groups [.token (.int 2) "integer" (.int 1) (.int 4),
      .token "," "comma" (.int 1) (.int 5)] :=
    @Groups.group _ (some (.token "," "comma" (.int 1) (.int 5))) _ ⟨_, _, _, rfl⟩
      (by rintro _ ⟨⟩; exact ⟨_, _, _, rfl⟩) .none
  have groups : Groups [.token (.int 1) "integer" (.int 1) (.int 2),
      .token (.int 2) "integer" (.int 1) (.int 4), .token "," "comma" (.int 1) (.int 5)] :=
    @Groups.group _ none _ ⟨_, _, _, rfl⟩ (by rintro _ ⟨⟩) last
  have literal : IsLiteral looseTokens := .brackets ⟨_, _, _, rfl⟩ groups ⟨_, _, _, rfl⟩
  exact ⟨areTokens, literal, ((parse_iff_literal _ areTokens true).1 _).mpr ⟨literal, rfl⟩⟩

end Parse

end ListLiteral

end Grammar

end Lexwork
