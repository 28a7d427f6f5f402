import Lexwork.Proofs.Grammar.CalculatorLexer
import Lexwork.Proofs.Pattern.Number

/-!
# Blanks between pieces

Blanks in front of, between or behind the pieces of a text change the positions of
its tokens and nothing else.  Where a piece ends depends on the character behind it:
digits go on while there are some, and a minus sign is a sign if a digit follows.
That character either stays or becomes a blank, which is no digit.  So every piece
but blanks is cut off again where it was, and blanks melt into one piece with those
beside them.
-/

namespace Lexwork

/-- What a token is, without where it stands. -/
def Token.kind (token : Token) : Text × Value :=
  (token.type, token.content)

namespace Lexer

/-- The kind of the token that a piece makes, unless its definition is ignored. -/
def Piece.kind? (piece : Piece) : Option (Text × Value) :=
  if piece.definition.ignore then none else some (piece.definition.name, piece.content)

def kindsOf (pieces : List Piece) : List (Text × Value) :=
  pieces.filterMap Piece.kind?

def Link.piece (link : Link) : Piece :=
  ⟨link.definition, link.found.consumed, link.content⟩

theorem kindsOf_cons (piece : Piece) (rest : List Piece) :
    kindsOf (piece :: rest) = piece.kind?.toList ++ kindsOf rest := by
  rw [kindsOf, kindsOf, List.filterMap_cons]
  cases piece.kind? <;> rfl

theorem kindsOf_append (first second : List Piece) :
    kindsOf (first ++ second) = kindsOf first ++ kindsOf second :=
  List.filterMap_append

theorem kinds_tokensFrom (tracker : Tracker) (pieces : List Piece) :
    (tokensFrom tracker pieces).map Token.kind = kindsOf pieces := by
  induction pieces generalizing tracker with
  | nil => rfl
  | cons piece rest ih =>
      have here : (tokensOf piece.definition piece.content tracker).map Token.kind =
          piece.kind?.toList := by
        unfold tokensOf Piece.kind?
        cases piece.definition.ignore <;> rfl
      rw [tokensFrom, List.map_append, here, ih, kindsOf_cons]

theorem kinds_tokensAlong (text : Text) (links : List Link) :
    (tokensAlong text links).map Token.kind = kindsOf (links.map Link.piece) := by
  rw [tokensAlong, kindsOf, List.map_filterMap, List.filterMap_map]
  refine congrArg (List.filterMap · links) (funext fun link => ?_)
  rw [Link.token?, Function.comp_apply, Piece.kind?, Link.piece]
  cases link.definition.ignore <;> rfl

end Lexer

namespace Grammar

namespace Calculator

open Regex Standard Lexer

/-- A text is made of the given ones, in order, with blanks in front of, between and behind them. -/
inductive Spread : List Text → Text → Prop
  | blanks {gap : Text} (blank : IsBlanks gap) : Spread [] gap
  | piece {gap first behind : Text} {rest : List Text} (blank : IsBlanks gap)
      (later : Spread rest behind) : Spread (first :: rest) (gap ++ (first ++ behind))

/-- A text starts as another one does, or with a blank, if it is not empty. -/
def StartsAlike (text other : Text) : Prop :=
  ∀ c ∈ other.head?, (c = ' ' ∨ c = '\t') ∨ text.head? = some c

theorem Spread.prepend {gap text : Text} {texts : List Text} (blank : IsBlanks gap)
    (spread : Spread texts text) : Spread texts (gap ++ text) := by
  cases spread with
  | blanks blank' => exact .blanks (blank.append blank')
  | piece blank' later =>
      rw [← List.append_assoc]
      exact .piece (blank.append blank') later

theorem Spread.startsAlike {text : Text} {texts : List Text}
    (nonempty : ∀ first ∈ texts, first ≠ []) (spread : Spread texts text) :
    StartsAlike texts.flatten text := by
  cases spread with
  | blanks blank =>
      intro c first
      exact .inl (blank c (List.mem_of_mem_head? first))
  | @piece gap first behind rest blank later =>
      intro c found
      cases gap with
      | cons b more =>
          obtain rfl : b = c := Option.some.inj found
          exact .inl (blank b (List.mem_cons_self ..))
      | nil =>
          obtain ⟨d, more, rfl⟩ :=
            List.exists_cons_of_ne_nil (nonempty first (List.mem_cons_self ..))
          exact .inr found

/-! ## What the links of the calculator cut off -/

/--
A piece that was cut off in front of a text is cut off in front of every other one
that starts alike, and blanks in front of it are cut off without it.
-/
def Stays (piece : Piece) (rest : Text) : Prop :=
  ∀ behind, StartsAlike rest behind →
    Takes definitions piece behind ∧ (piece.text ++ behind).takeWhile blankSet.accepts = []

theorem StartsAlike.noDigit {text other : Text} (alike : StartsAlike text other)
    (ends : ∀ c ∈ text.head?, c.isDigit = false) : ∀ c ∈ other.head?, c.isDigit = false := by
  intro c first
  rcases alike c first with (rfl | rfl) | same
  · rfl
  · rfl
  · exact ends c same

theorem solid_startsInteger {text : Text} (starts : StartsInteger text) :
    text.takeWhile blankSet.accepts = [] := by
  obtain ⟨sign, d, rest, rfl | rfl, digit, rfl⟩ := starts
  · refine List.takeWhile_cons_of_neg fun accepted => ?_
    rcases (accepts_blankSet d).mp accepted with rfl | rfl <;> cases digit
  · rfl

/-- A literal ends at the same place if what follows it starts alike. -/
theorem leadingInteger?_alike {literal rest behind : Text}
    (leading : leadingInteger? (literal ++ rest) = some literal) (alike : StartsAlike rest behind) :
    leadingInteger? (literal ++ behind) = some literal := by
  obtain ⟨rest', same, sign, digits, signed, run, split⟩ := leadingInteger?_eq_some_iff.mp leading
  obtain rfl : rest = rest' := List.append_cancel_left same
  have ends := alike.noDigit run.ends
  exact leadingInteger?_eq_some_iff.mpr
    ⟨behind, rfl, sign, digits, signed, ⟨run.decimal, run.nonempty, ends⟩, split⟩

/-- An operator starts no integer if it started none before what follows it was changed. -/
theorem leadingInteger?_operator {c : Char} {rest behind : Text} (listed : c.toNat ∈ operatorCodes)
    (other : leadingInteger? (c :: rest) = none) (alike : StartsAlike rest behind) :
    leadingInteger? (c :: behind) = none := by
  rw [Option.eq_none_iff_forall_ne_some]
  intro literal found
  obtain ⟨sign, d, more, signed, digit, split⟩ := exists_leadingInteger?_iff.mp ⟨literal, found⟩
  rcases signed with rfl | rfl
  · obtain rfl : c = d := (List.cons.inj split).1
    have codes := (Text.isDigit_iff c).mp digit
    simp only [operatorCodes, List.mem_cons, List.not_mem_nil, or_false] at listed
    omega
  · obtain ⟨rfl, rfl⟩ := List.cons.inj split
    rcases alike d rfl with (rfl | rfl) | same
    · cases digit
    · cases digit
    · obtain ⟨tail, rfl⟩ := List.head?_eq_some_iff.mp same
      obtain ⟨literal', found'⟩ :=
        exists_leadingInteger?_iff.mpr ⟨['-'], d, tail, .inr rfl, digit, rfl⟩
      cases other.symm.trans found'

section Links

variable {text : Text} {link : Link}

theorem contentOf_link (valid : IsLink definitions text link) :
    link.definition.contentOf ⟨link.found.consumed, .bool true, .none⟩ = .ok link.content := by
  obtain ⟨expression, given⟩ := (definitions_regex valid.reached.mem).1
  rw [← (Definition.matchHere_regex_eq_some given valid.matchedHere).1]
  exact Definition.contentOf_eq_ok_iff.mpr valid.carried

theorem stays_integer (valid : IsLink definitions text link)
    (given : link.definition = integerDefinition) : Stays link.piece (text.drop link.stop) := by
  have matched := valid.matchedHere
  have carried := contentOf_link valid
  rw [given] at matched carried
  have nonempty := (Definition.matchHere_eq_some matched).1
  have before := leadingInteger?_of_matched matched
  rw [Place.rest_ofOffset, valid.drop_start] at before
  intro behind alike
  have leading := leadingInteger?_alike before alike
  have solid := solid_startsInteger (exists_leadingInteger?_iff.mp ⟨_, leading⟩)
  refine ⟨?_, solid⟩
  rw [Link.piece, given]
  exact takes_literal (integer_comesFirst solid) leading nonempty carried

/-- A link by a single character cuts off one that is listed. -/
theorem exists_piece_of_character {name pattern : Text} {codes : List Nat}
    {name_ne_nil : name ≠ []} (valid : IsLink definitions text link)
    (given : link.definition = characterDefinition name pattern codes name_ne_nil) :
    ∃ c, c.toNat ∈ codes ∧ link.piece = ⟨link.definition, [c], .str [c]⟩ := by
  have matched := valid.matchedHere
  have carried := contentOf_link valid
  rw [given] at matched carried
  have stands : (Place.ofOffset text link.start).rest =
      link.found.consumed ++ text.drop link.stop :=
    (Place.rest_ofOffset text link.start).trans valid.drop_start
  obtain ⟨c, more, split⟩ := List.exists_cons_of_ne_nil (Definition.matchHere_eq_some matched).1
  rw [split, List.cons_append] at stands
  by_cases listed : c.toNat ∈ codes
  · rw [characterDefinition_matches listed _ _ stands] at matched
    have consumed : link.found.consumed = [c] :=
      congrArg Match.consumed (Option.some.inj (Except.ok.inj matched)).symm
    rw [consumed] at carried
    have content : link.content = .str [c] := (Except.ok.inj carried).symm
    exact ⟨c, listed, by rw [Link.piece, consumed, content]⟩
  · rw [characterDefinition_declines listed _ _ stands] at matched
    cases matched

theorem stays_operator (valid : IsLink definitions text link)
    (given : link.definition = operatorDefinition) : Stays link.piece (text.drop link.stop) := by
  obtain ⟨c, listed, whole⟩ := exists_piece_of_character valid given
  have split : definitions = [blankDefinition, integerDefinition] ++
      link.definition :: [openingDefinition, closingDefinition] := by
    rw [given]
    rfl
  have later : link.definition ∉ [blankDefinition, integerDefinition] := by
    rw [given]
    intro inside
    have names := List.mem_map_of_mem (f := Definition.name) inside
    revert names
    decide
  -- The integer, which is tried first, has not matched here.
  have other := leadingInteger?_of_declined
    (valid.declined_of_mem split later (List.mem_cons_of_mem _ (List.mem_cons_self ..)))
  have consumed : link.found.consumed = [c] := congrArg Piece.text whole
  rw [Place.rest_ofOffset, valid.drop_start, consumed] at other
  intro behind alike
  rw [whole, given]
  exact ⟨takes_operatorPiece listed (leadingInteger?_operator listed other alike),
    solid_operator listed behind⟩

theorem stays_opening (valid : IsLink definitions text link)
    (given : link.definition = openingDefinition) : Stays link.piece (text.drop link.stop) := by
  obtain ⟨c, listed, whole⟩ := exists_piece_of_character valid given
  obtain rfl : c = '(' := Char.toNat_inj.mp (List.mem_singleton.mp listed)
  intro behind _
  rw [whole, given]
  exact ⟨takes_openingPiece, rfl⟩

theorem stays_closing (valid : IsLink definitions text link)
    (given : link.definition = closingDefinition) : Stays link.piece (text.drop link.stop) := by
  obtain ⟨c, listed, whole⟩ := exists_piece_of_character valid given
  obtain rfl : c = ')' := Char.toNat_inj.mp (List.mem_singleton.mp listed)
  intro behind _
  rw [whole, given]
  exact ⟨takes_closingPiece, rfl⟩

/-- A link cuts off blanks, or a piece that stays what it is where blanks are put in. -/
theorem blanks_or_stays (valid : IsLink definitions text link) :
    (link.definition = blankDefinition ∧ IsBlanks link.found.consumed) ∨
      Stays link.piece (text.drop link.stop) := by
  have listed := valid.reached.mem
  simp only [definitions, List.mem_cons, List.not_mem_nil, or_false] at listed
  rcases listed with given | given | given | given | given
  · exact .inl ⟨given, isBlanks_of_matched (given ▸ valid.matchedHere)⟩
  · exact .inr (stays_integer valid given)
  · exact .inr (stays_operator valid given)
  · exact .inr (stays_opening valid given)
  · exact .inr (stays_closing valid given)

end Links

/-- Blanks as a piece, or no piece if there are none. -/
def gapPieces (gap : Text) : List Piece :=
  if gap = [] then [] else [blanksPiece gap]

theorem textOf_gapPieces (gap : Text) : textOf (gapPieces gap) = gap := by
  unfold gapPieces
  split
  · rename_i empty
    exact empty.symm
  · exact List.append_nil gap

theorem kindsOf_gapPieces (gap : Text) : kindsOf (gapPieces gap) = [] := by
  unfold gapPieces
  split
  · rfl
  · rfl

theorem takesAll_gapPieces {gap behind : Text} (blank : IsBlanks gap)
    (solid : behind.takeWhile blankSet.accepts = []) :
    TakesAll definitions (gapPieces gap) behind := by
  unfold gapPieces
  split
  · trivial
  · rename_i nonempty
    exact ⟨takes_blanksPiece blank_comesFirst nonempty blank solid, trivial⟩

/--
Along a chain, a text with blanks put in is made of pieces that are cut off in turn
and make tokens of the same kinds.
-/
theorem exists_pieces_of_spread {text spread : Text} {start stop : Nat} {links : List Link}
    (chain : Chain definitions text start links stop) (ended : text.drop stop = [])
    (spreads : Spread (links.map (·.found.consumed)) spread) :
    ∃ pieces, TakesAll definitions pieces [] ∧ textOf pieces = spread ∧
      kindsOf pieces = kindsOf (links.map Link.piece) := by
  -- Blanks of the text itself join the gap behind them, so the text with blanks varies.
  induction chain generalizing spread with
  | done offset =>
      cases spreads with
      | blanks blank =>
          exact ⟨gapPieces spread, takesAll_gapPieces blank rfl, textOf_gapPieces spread,
            kindsOf_gapPieces spread⟩
  | @link start stop link links starts valid rest ih =>
      cases spreads with
      | @piece gap _ behind _ blank later =>
          rcases blanks_or_stays valid with ⟨given, blanks⟩ | stays
          · obtain ⟨pieces, taken, whole, kinds⟩ :=
              ih ended ((later.prepend blanks).prepend blank)
            refine ⟨pieces, taken, whole, ?_⟩
            rw [kinds, List.map_cons, kindsOf_cons, Piece.kind?, Link.piece, given]
            rfl
          · obtain ⟨pieces, taken, rfl, kinds⟩ := ih ended later
            have alike : StartsAlike (text.drop link.stop) (textOf pieces) := by
              rw [rest.drop_start, ended, List.append_nil]
              refine later.startsAlike fun first inside => ?_
              obtain ⟨other, listed, rfl⟩ := List.mem_map.mp inside
              exact (Definition.matchHere_eq_some (rest.isLink_of_mem listed).matchedHere).1
            obtain ⟨here, solid⟩ := stays _ alike
            refine ⟨gapPieces gap ++ link.piece :: pieces, ?_, ?_, ?_⟩
            · refine takesAll_append (takesAll_gapPieces blank ?_) ⟨?_, taken⟩
              · rw [textOf_cons, List.append_nil]
                exact solid
              · rw [List.append_nil]
                exact here
            · rw [textOf_append, textOf_gapPieces, textOf_cons]
              rfl
            · rw [kindsOf_append, kindsOf_gapPieces, List.nil_append, List.map_cons, kindsOf_cons,
                kindsOf_cons, kinds]

/--
Blanks in front of, between or behind the pieces that a text is cut into leave the
contents and the types of its tokens as they are, in their order.
-/
theorem tokenize_spread {cutter : Lexer} (built : lexer = .ok cutter) {text : Text}
    {cuts : List Token} (cut : cutter.tokenize (.str text) = .ok cuts) :
    ∃ links, Chain cutter.patterns text 0 links text.length ∧ cuts = tokensAlong text links ∧
      (links.map (·.found.consumed)).flatten = text ∧
      ∀ spread, Spread (links.map (·.found.consumed)) spread →
        ∃ cuts', cutter.tokenize (.str spread) = .ok cuts' ∧
          cuts'.map Token.kind = cuts.map Token.kind := by
  obtain rfl : builtLexer = cutter := Except.ok.inj (lexer_eq.symm.trans built)
  obtain ⟨links, chain, rfl⟩ := (tokenize_eq_ok_iff patterns_ne_nil).mp cut
  have ended : text.drop text.length = [] := List.drop_length
  have whole : text = (links.map (·.found.consumed)).flatten := by
    rw [← List.append_nil (List.flatten _), ← ended]
    exact chain.drop_start
  refine ⟨links, chain, rfl, whole.symm, fun spread spreads => ?_⟩
  obtain ⟨pieces, taken, rfl, kinds⟩ := exists_pieces_of_spread chain ended spreads
  refine ⟨tokensFrom {} pieces, tokenize_textOf patterns_ne_nil taken, ?_⟩
  rw [kinds_tokensFrom, kinds_tokensAlong, kinds]

/-- A minus sign as an operator and one as a sign, which stays one behind a blank. -/
theorem tokenize_spread_signs :
    lexer = .ok builtLexer ∧
      builtLexer.tokenize "1--2" = .ok [⟨.int 1, "integer", 1, 1⟩, ⟨.str "-", "operator", 1, 2⟩,
        ⟨.int (-2), "integer", 1, 3⟩] ∧
      Spread ["1", "-", "-2"] " 1 -\t-2" ∧
      ∃ cuts, builtLexer.tokenize " 1 -\t-2" = .ok cuts ∧
        cuts.map Token.kind =
          [⟨"integer", .int 1⟩, ⟨"operator", .str "-"⟩, ⟨"integer", .int (-2)⟩] := by
  have first : IsLink definitions "1--2"
      ⟨integerDefinition, 0, 1, ⟨['1'], .bool true, .none⟩, .int 1⟩ := by
    refine ⟨⟨[blankDefinition], _, rfl, List.forall_mem_singleton.mpr ?_⟩, ?_, by decide,
      by decide, rfl, .interpreted rfl rfl⟩
    · rfl
    · rfl
  have second : IsLink definitions "1--2"
      ⟨operatorDefinition, 1, 2, ⟨['-'], .bool true, .none⟩, .str ['-']⟩ := by
    refine ⟨⟨[blankDefinition, integerDefinition], _, rfl, ?_⟩, ?_, by decide, by decide, rfl,
      .consumed rfl rfl⟩
    · refine List.forall_mem_cons.mpr ⟨?_, List.forall_mem_singleton.mpr ?_⟩
      · rfl
      · rfl
    · rfl
  have third : IsLink definitions "1--2"
      ⟨integerDefinition, 2, 4, ⟨['-', '2'], .bool true, .none⟩, .int (-2)⟩ := by
    refine ⟨⟨[blankDefinition], _, rfl, List.forall_mem_singleton.mpr ?_⟩, ?_, by decide,
      by decide, rfl, .interpreted rfl rfl⟩
    · rfl
    · rfl
  have expected : Chain definitions "1--2" 0 _ 4 :=
    .link rfl first (.link rfl second (.link rfl third (.done 4)))
  have cut : builtLexer.tokenize "1--2" = .ok [⟨.int 1, "integer", 1, 1⟩,
      ⟨.str "-", "operator", 1, 2⟩, ⟨.int (-2), "integer", 1, 3⟩] :=
    (tokenize_eq_ok_iff patterns_ne_nil).mpr ⟨_, expected, rfl⟩
  have spread : Spread ["1", "-", "-2"] " 1 -\t-2" :=
    .piece (List.forall_mem_singleton.mpr (.inl rfl)) <|
      .piece (List.forall_mem_singleton.mpr (.inl rfl)) <|
        .piece (List.forall_mem_singleton.mpr (.inr rfl)) (.blanks (List.forall_mem_nil _))
  obtain ⟨links, chain, -, -, spreads⟩ := tokenize_spread lexer_eq cut
  obtain rfl := chain.unique expected
  exact ⟨lexer_eq, cut, spread, spreads _ spread⟩

end Calculator

end Grammar

end Lexwork
