import Lexwork.Lexer
import Lexwork.Proofs.Pattern.Standard
import Lexwork.Proofs.Pattern.StringLiteral

/-!
# Writing texts as string literals

Every text has a literal that stands for it.  A quote and a backslash are written
by their numbers, always with four digits, so that no digit behind them is taken
for a part of the number.  Literals with single blanks between them are cut into
one token each, whichever of the two definitions comes first: a literal starts
with a quote, which is no blank.
-/

namespace Lexwork

namespace StringLiteral

open Lexer Standard

def writeChar (c : Char) : Text :=
  if c = '\t' then ['\\', 't']
  else if c = '\r' then ['\\', 'r']
  else if c = '\n' then ['\\', 'n']
  else if c = '"' then ['\\', 'u', '0', '0', '3', '4']
  else if c = '\\' then ['\\', 'u', '0', '0', '9', '2']
  else [c]

def write (text : Text) : Text :=
  inQuotes (text.flatMap writeChar)

theorem isCode_quote : IsCode ['0', '0', '3', '4'] :=
  ⟨rfl, List.all_eq_true.mp rfl⟩

theorem isCode_backslash : IsCode ['0', '0', '9', '2'] :=
  ⟨rfl, List.all_eq_true.mp rfl⟩

theorem IsBody.writeChar {body : Text} (later : IsBody body) (c : Char) :
    IsBody (writeChar c ++ body) := by
  have coded {digits : Text} (code : IsCode digits) :
      IsBody ('\\' :: 'u' :: (digits ++ body)) :=
    .escape (by decide) ((isBody_digits_append code.decimal).mpr later)
  unfold StringLiteral.writeChar
  split
  · exact .escape (by decide) later
  split
  · exact .escape (by decide) later
  split
  · exact .escape (by decide) later
  split
  · exact coded isCode_quote
  split
  · exact coded isCode_backslash
  · rename_i notQuote notBackslash
    exact .plain notQuote notBackslash later

/-- A written character stands for itself, whatever is written behind it. -/
theorem Decodes.writeChar {body content : Text} (later : Decodes body content) (c : Char) :
    Decodes (writeChar c ++ body) (c :: content) := by
  unfold StringLiteral.writeChar
  split
  · rename_i same
    exact .named (by subst same; decide) later
  split
  · rename_i same
    exact .named (by subst same; decide) later
  split
  · rename_i same
    exact .named (by subst same; decide) later
  split
  · rename_i same
    subst same
    exact .code isCode_quote rfl later
  split
  · rename_i same
    subst same
    exact .code isCode_backslash rfl later
  · rename_i notQuote notBackslash
    exact .plain notBackslash later

theorem isBody_write (text : Text) : IsBody (text.flatMap writeChar) := by
  induction text with
  | nil => exact .nil
  | cons c text ih => exact ih.writeChar c

theorem decodes_write (text : Text) : Decodes (text.flatMap writeChar) text := by
  induction text with
  | nil => exact .nil
  | cons c text ih => exact ih.writeChar c

theorem consume_write (text rest : Text) :
    consume (write text ++ rest) =
      .result (.bool true) (.str (write text)) (.str text) :=
  consume_of_decodes (decodes_write text) (isBody_write text) rest

def stringDefinition : Definition where
  name := "string"
  matcher := .consumer fun text => .ok (consume text)
  ignore := false
  interpret := none
  name_ne_nil := by decide

def stringPiece (text : Text) : Piece :=
  ⟨stringDefinition, write text, .str text⟩

/-- The definitions of blanks and of literals, in one of their orders. -/
def BlanksAndStrings (definitions : List Definition) : Prop :=
  definitions = [blankDefinition, stringDefinition] ∨
    definitions = [stringDefinition, blankDefinition]

variable {definitions : List Definition}

theorem stringDefinition_matches (text : Text) {behind : Text} {place : Place}
    (stands : place.rest = write text ++ behind) (tracker : Tracker) :
    stringDefinition.matchHere place tracker =
      .ok (some ⟨write text, .bool true, .str text⟩) := by
  have returned : consume place.rest =
      .result (.bool true) (.str (write text)) (.str text) := by
    rw [stands, consume_write]
  have starts : write text <+: place.rest := by
    rw [stands]
    exact List.prefix_append _ _
  exact Definition.matchHere_consumer rfl (congrArg Except.ok returned) starts
    (List.cons_ne_nil _ _) tracker

/-- A literal is taken whole: no blank stands where it starts. -/
theorem takes_stringPiece (order : BlanksAndStrings definitions) (text behind : Text) :
    Takes definitions (stringPiece text) behind := by
  have solid : blankDefinition.Declines (write text ++ behind) := blankDefinition_declines rfl
  have first : ComesFirst stringDefinition definitions (write text ++ behind) := by
    rcases order with rfl | rfl
    · exact ⟨[blankDefinition], [], rfl, List.forall_mem_singleton.mpr solid⟩
    · exact ⟨[], _, rfl, List.forall_mem_nil _⟩
  exact takes_of_found first
    (fun _ tracker stands => stringDefinition_matches text stands tracker) rfl rfl

theorem BlanksAndStrings.blank_comesFirst (order : BlanksAndStrings definitions) (behind : Text) :
    ComesFirst blankDefinition definitions ([' '] ++ behind) := by
  have other : stringDefinition.Declines ([' '] ++ behind) := Definition.declines_consumer rfl rfl
  rcases order with rfl | rfl
  · exact ⟨[], _, rfl, List.forall_mem_nil _⟩
  · exact ⟨[stringDefinition], [], rfl, List.forall_mem_singleton.mpr other⟩

/-- The literals of texts with single blanks between them, as pieces. -/
def pieces (texts : List Text) : List Piece :=
  (texts.map stringPiece).intersperse blankPiece

theorem pieces_cons_cons (first second : Text) (texts : List Text) :
    pieces (first :: second :: texts) =
      stringPiece first :: blankPiece :: pieces (second :: texts) :=
  List.intersperse_cons_cons

theorem textOf_pieces (texts : List Text) :
    textOf (pieces texts) = List.intercalate [' '] (texts.map write) := by
  induction texts with
  | nil => rfl
  | cons first texts ih =>
      cases texts with
      | nil =>
          rw [List.map_singleton, List.intercalate_singleton]
          exact List.append_nil (write first)
      | cons second texts =>
          rw [pieces_cons_cons, textOf_cons, textOf_cons, ih]
          simp only [List.map_cons, List.intercalate_cons_cons, List.append_assoc]
          rfl

theorem head?_textOf_pieces (first : Text) (texts : List Text) (behind : Text) :
    (textOf (pieces (first :: texts)) ++ behind).head? = some '"' := by
  cases texts with
  | nil => rfl
  | cons second texts => rfl

theorem takesAll_pieces (order : BlanksAndStrings definitions) (texts : List Text) :
    TakesAll definitions (pieces texts) [] := by
  -- A blank is taken alone only because a literal follows it: the last text has none behind it.
  induction texts with
  | nil => trivial
  | cons first texts ih =>
      cases texts with
      | nil => exact ⟨takes_stringPiece order first _, trivial⟩
      | cons second texts =>
          rw [pieces_cons_cons]
          obtain ⟨rest, quoted⟩ :=
            List.head?_eq_some_iff.mp (head?_textOf_pieces second texts [])
          have solid :
              (textOf (pieces (second :: texts)) ++ []).takeWhile blankSet.accepts = [] := by
            rw [quoted]
            rfl
          exact ⟨takes_stringPiece order first _, takes_blankPiece (order.blank_comesFirst _) solid,
            ih⟩

/-- The tokens of the pieces are those of the literals alone, in order. -/
theorem marks_pieces (texts : List Text) (tracker : Tracker) :
    (tokensFrom tracker (pieces texts)).map (fun token => (token.type, token.content)) =
      texts.map fun text => (("string" : Text), Value.str text) := by
  induction texts generalizing tracker with
  | nil => rfl
  | cons first texts ih =>
      cases texts with
      | nil => rfl
      | cons second texts =>
          rw [pieces_cons_cons]
          exact congrArg ((("string" : Text), Value.str first) :: ·) (ih _)

theorem exists_lexer {proposals : List (Except Fault Proposal)}
    (order : proposals = [whitespace, stringLiteral] ∨ proposals = [stringLiteral, whitespace]) :
    ∃ lexer, ofProposals proposals = .ok lexer ∧ BlanksAndStrings lexer.patterns := by
  rcases order with rfl | rfl
  · exact ⟨_, rfl, .inl rfl⟩
  · exact ⟨_, rfl, .inr rfl⟩

/--
The literal of a text is consumed whole before any other text, with the text as
its content.  Literals with single blanks between them are cut into one token
each, in order, with the texts as contents, in either order of the definitions.
-/
theorem write_reads_back :
    (∀ text rest : Text, consume (write text ++ rest) =
      .result (.bool true) (.str (write text)) (.str text)) ∧
    ∀ (texts : List Text) (proposals : List (Except Fault Proposal)),
      proposals = [whitespace, stringLiteral] ∨ proposals = [stringLiteral, whitespace] →
      ∃ lexer tokens, ofProposals proposals = .ok lexer ∧
        lexer.tokenize (.str (List.intercalate [' '] (texts.map write))) = .ok tokens ∧
        tokens.map (fun token => (token.type, token.content)) =
          texts.map fun text => (("string" : Text), Value.str text) := by
  refine ⟨consume_write, ?_⟩
  intro texts proposals order
  obtain ⟨lexer, built, ordered⟩ := exists_lexer order
  have registered : lexer.patterns ≠ [] := by
    rcases ordered with patterns | patterns <;> simp [patterns]
  have cut := tokenize_textOf registered (takesAll_pieces ordered texts)
  rw [textOf_pieces] at cut
  exact ⟨lexer, _, built, cut, marks_pieces texts {}⟩

/-- Digits behind a quote, an empty text, and what looks like an escape but is none. -/
theorem write_reads_back_lookalikes :
    ∃ lexer tokens, ofProposals [stringLiteral, whitespace] = .ok lexer ∧
      lexer.tokenize "\"\\u003456\" \"\" \"\\u0092u0065 \\n\"" = .ok tokens ∧
      tokens.map (fun token => (token.type, token.content)) =
        ([("string", "\"56"), ("string", ""), ("string", "\\u0065 \n")] : List (Text × Value)) :=
  write_reads_back.2 ["\"56", "", "\\u0065 \n"] [stringLiteral, whitespace] (.inr rfl)

end StringLiteral

end Lexwork
