import Lexwork.Grammar.Calculator
import Lexwork.Proofs.Lexer.Pieces
import Lexwork.Proofs.Pattern.Standard

/-!
# The lexer of the calculator

The definitions of the calculator, in order: blanks, integers, operators and the
two parentheses.  A minus sign before a digit belongs to the integer, which is
tried first; any other one is an operator.
-/

namespace Lexwork

namespace Grammar

namespace Calculator

open Regex Standard Lexer

def characterDefinition (name pattern : Text) (codes : List Nat) (name_ne_nil : name ≠ []) :
    Definition where
  name := name
  matcher := .regex ⟨pattern, {}, .seq (.set (oneOf codes)) .empty⟩
  ignore := false
  interpret := none
  name_ne_nil := name_ne_nil

def operatorCodes : List Nat :=
  [43, 45, 42, 47, 37, 94]

def operatorDefinition : Definition :=
  characterDefinition "operator" "[+\\-*/%^]" operatorCodes (by decide)

def openingDefinition : Definition :=
  characterDefinition "open paren" "\\(" [40] (by decide)

def closingDefinition : Definition :=
  characterDefinition "close paren" "\\)" [41] (by decide)

def definitions : List Definition :=
  [blankDefinition, integerDefinition, operatorDefinition, openingDefinition, closingDefinition]

def builtLexer : Lexer :=
  ⟨"unnamedlanguage", definitions, by decide⟩

theorem lexer_eq : lexer = .ok builtLexer :=
  rfl

theorem patterns_ne_nil : builtLexer.patterns ≠ [] :=
  List.cons_ne_nil _ _

section Taking

variable {text behind : Text} {c : Char}

theorem characterDefinition_declines {name pattern : Text} {codes : List Nat}
    {name_ne_nil : name ≠ []} (other : c.toNat ∉ codes) :
    (characterDefinition name pattern codes name_ne_nil).Declines (c :: behind) := by
  refine Definition.declines_regex rfl fun place stands => ?_
  refine matchAt_set_refused ?_
  rw [stands]
  rintro _ ⟨⟩
  rw [Bool.eq_false_iff, Ne, accepts_oneOf]
  exact other

theorem characterDefinition_matches {name pattern : Text} {codes : List Nat}
    {name_ne_nil : name ≠ []} (listed : c.toNat ∈ codes) :
    (characterDefinition name pattern codes name_ne_nil).Matches (c :: behind) [c] := by
  refine Definition.matches_regex rfl (fun place stands => ?_) (List.cons_ne_nil c [])
  exact matchAt_set stands ((accepts_oneOf codes c).mpr listed)

def operatorPiece (c : Char) : Piece :=
  ⟨operatorDefinition, [c], .str [c]⟩

def openingPiece : Piece :=
  ⟨openingDefinition, ['('], .str ['(']⟩

def closingPiece : Piece :=
  ⟨closingDefinition, [')'], .str [')']⟩

theorem blank_comesFirst : ComesFirst blankDefinition definitions text :=
  ⟨[], _, rfl, List.forall_mem_nil _⟩

theorem integer_comesFirst (solid : text.takeWhile blankSet.accepts = []) :
    ComesFirst integerDefinition definitions text :=
  ⟨[blankDefinition], _, rfl, List.forall_mem_singleton.mpr (blankDefinition_declines solid)⟩

theorem solid_operator (listed : c.toNat ∈ operatorCodes) (behind : Text) :
    (c :: behind).takeWhile blankSet.accepts = [] := by
  refine List.takeWhile_cons_of_neg ?_
  rw [blankSet, accepts_oneOf]
  simp only [operatorCodes, List.mem_cons, List.not_mem_nil, or_false] at listed ⊢
  omega

theorem takes_operatorPiece (listed : c.toNat ∈ operatorCodes)
    (other : leadingInteger? (c :: behind) = none) :
    Takes definitions (operatorPiece c) behind := by
  refine takes_of_matches ⟨[blankDefinition, integerDefinition], _, rfl, ?_⟩
    (characterDefinition_matches listed) rfl
  exact List.forall_mem_cons.mpr ⟨blankDefinition_declines (solid_operator listed behind),
    List.forall_mem_cons.mpr ⟨integerDefinition_declines other, List.forall_mem_nil _⟩⟩

theorem takes_openingPiece : Takes definitions openingPiece behind := by
  refine takes_of_matches
    ⟨[blankDefinition, integerDefinition, operatorDefinition], _, rfl, ?_⟩
    (characterDefinition_matches (by decide)) rfl
  simp only [List.forall_mem_cons]
  exact ⟨blankDefinition_declines rfl, integerDefinition_declines rfl,
    characterDefinition_declines (by decide), List.forall_mem_nil _⟩

theorem takes_closingPiece : Takes definitions closingPiece behind := by
  refine takes_of_matches
    ⟨[blankDefinition, integerDefinition, operatorDefinition, openingDefinition], _, rfl, ?_⟩
    (characterDefinition_matches (by decide)) rfl
  simp only [List.forall_mem_cons]
  exact ⟨blankDefinition_declines rfl, integerDefinition_declines rfl,
    characterDefinition_declines (by decide), characterDefinition_declines (by decide),
    List.forall_mem_nil _⟩

end Taking

theorem tokens_eq (text : Value) :
    tokens text = builtLexer.tokenize text >>= fun cut => .ok (cut.map Token.toValue) := by
  rw [tokens, lexer_eq]
  rfl

theorem tokens_textOf {pieces : List Piece} (taken : TakesAll definitions pieces []) :
    tokens (.str (textOf pieces)) = .ok ((tokensFrom {} pieces).map Token.toValue) := by
  rw [tokens_eq, tokenize_textOf patterns_ne_nil taken]
  rfl

/-- Every definition is by an expression, and what it interprets, it takes for an integer. -/
theorem definitions_regex {definition : Definition} (listed : definition ∈ definitions) :
    (∃ expression, definition.matcher = .regex expression) ∧
      ∀ interpret, definition.interpret = some interpret → interpret = interpretInteger := by
  simp only [definitions, List.mem_cons, List.not_mem_nil, or_false] at listed
  rcases listed with rfl | rfl | rfl | rfl | rfl
  · exact ⟨⟨_, rfl⟩, fun _ given => nomatch given⟩
  · exact ⟨⟨_, rfl⟩, fun _ given => (Option.some.inj given).symm⟩
  · exact ⟨⟨_, rfl⟩, fun _ given => nomatch given⟩
  · exact ⟨⟨_, rfl⟩, fun _ given => nomatch given⟩
  · exact ⟨⟨_, rfl⟩, fun _ given => nomatch given⟩

theorem content_of_carries {definition : Definition} (listed : definition ∈ definitions)
    {found : Match} (bare : found.content = .none) {content : Value}
    (carried : definition.Carries found content) :
    (∃ n, content = .int n) ∨ ∃ piece, content = .str piece := by
  cases carried with
  | interpreted chosen returned =>
      rw [(definitions_regex listed).2 _ chosen, interpretInteger] at returned
      split at returned
      · cases returned
        exact .inl ⟨_, rfl⟩
      · cases returned
  | reported absent reported => exact absurd bare reported
  | consumed absent missing => exact .inr ⟨_, rfl⟩

theorem content_of_isLink {text : Text} {link : Link} (valid : IsLink definitions text link) :
    (∃ n, link.content = .int n) ∨ ∃ piece, link.content = .str piece := by
  have listed := valid.reached.mem
  obtain ⟨expression, given⟩ := (definitions_regex listed).1
  have bare : link.found.content = .none :=
    congrArg Match.content (Definition.matchHere_regex_eq_some given valid.matchedHere).1
  exact content_of_carries listed bare valid.carried

theorem content_of_mem_tokens {text : Value} {items : List Value} (cut : tokens text = .ok items)
    {item : Value} (inside : item ∈ items) :
    ∃ token : Token, item = token.toValue ∧
      ((∃ n, token.content = .int n) ∨ ∃ piece, token.content = .str piece) := by
  rw [tokens_eq] at cut
  cases tokenized : builtLexer.tokenize text with
  | error fault =>
      rw [tokenized] at cut
      cases cut
  | ok cuts =>
      rw [tokenized] at cut
      cases cut
      obtain ⟨token, made, rfl⟩ := List.mem_map.mp inside
      refine ⟨token, rfl, ?_⟩
      cases text with
      | str text =>
          obtain ⟨link, valid, shape⟩ := isLink_of_mem_tokenize patterns_ne_nil tokenized made
          unfold Link.token? at shape
          split at shape
          · cases shape
          · cases shape
            exact content_of_isLink valid
      | _ => cases tokenized

end Calculator

end Grammar

end Lexwork
