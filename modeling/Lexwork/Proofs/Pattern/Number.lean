import Lexwork.Proofs.Lexer.Chain
import Lexwork.Proofs.Pattern.Standard
import Lexwork.Proofs.Regex.Repetition

/-!
# Integers and numbers with a point

Both patterns take the longest literal that the rest of a text starts with.  What
lets them give characters back is never used: a digit in front of the point keeps
the point from matching, so the digits are taken all or the literal is none.  An
integer is therefore never the start of a number with a point, where that pattern
was asked first.
-/

namespace Lexwork

namespace Standard

open Regex

def IsSign (text : Text) : Prop :=
  text = [] ∨ text = ['-']

/-- Digits that go on as far as they can in front of a rest. -/
structure IsRun (digits rest : Text) : Prop where
  decimal : IsDigits digits
  nonempty : digits ≠ []
  ends : ∀ c ∈ rest.head?, c.isDigit = false

/-- A text starts with an optional sign and a digit, whatever follows. -/
def StartsInteger (text : Text) : Prop :=
  ∃ sign d rest, IsSign sign ∧ d.isDigit = true ∧ text = sign ++ d :: rest

/-- A text starts with a point and a digit, whatever follows. -/
def StartsFraction (text : Text) : Prop :=
  ∃ d rest, d.isDigit = true ∧ text = '.' :: d :: rest

/-- A text starts with an optional sign, digits or none, a point and a digit. -/
def StartsDecimal (text : Text) : Prop :=
  ∃ sign whole rest, IsSign sign ∧ IsDigits whole ∧ StartsFraction rest ∧
    text = sign ++ (whole ++ rest)

/-- A sign and all digits in front of a rest. -/
def IntegerBefore (literal rest : Text) : Prop :=
  ∃ sign digits, IsSign sign ∧ IsRun digits rest ∧ literal = sign ++ digits

/-- A sign, digits or none, a point and all digits behind it in front of a rest. -/
def DecimalBefore (literal rest : Text) : Prop :=
  ∃ sign whole digits, IsSign sign ∧ IsDigits whole ∧ IsRun digits rest ∧
    literal = sign ++ (whole ++ '.' :: digits)

theorem IntegerBefore.ne_nil {literal rest : Text} (before : IntegerBefore literal rest) :
    literal ≠ [] := by
  obtain ⟨sign, digits, -, run, rfl⟩ := before
  exact List.append_ne_nil_of_right_ne_nil sign run.nonempty

theorem DecimalBefore.ne_nil {literal rest : Text} (before : DecimalBefore literal rest) :
    literal ≠ [] := by
  obtain ⟨sign, whole, digits, -, -, -, rfl⟩ := before
  simp

theorem isDigits_takeWhile (text : Text) : IsDigits (text.takeWhile Char.isDigit) :=
  List.all_eq_true.mp List.all_takeWhile

theorem ends_dropWhile (text : Text) :
    ∀ c ∈ (text.dropWhile Char.isDigit).head?, c.isDigit = false := by
  intro c first
  have stopped := List.head?_dropWhile_not Char.isDigit text
  rw [Option.mem_def.mp first] at stopped
  exact stopped

theorem takeWhile_digits {digits rest : Text} (decimal : IsDigits digits)
    (ends : ∀ c ∈ rest.head?, c.isDigit = false) :
    (digits ++ rest).takeWhile Char.isDigit = digits := by
  rw [List.takeWhile_append_of_pos decimal, Text.takeWhile_eq_nil_iff.mpr ends, List.append_nil]

theorem dropWhile_digits {digits rest : Text} (decimal : IsDigits digits)
    (ends : ∀ c ∈ rest.head?, c.isDigit = false) :
    (digits ++ rest).dropWhile Char.isDigit = rest := by
  have whole := List.takeWhile_append_dropWhile (p := Char.isDigit) (l := digits ++ rest)
  rw [takeWhile_digits decimal ends] at whole
  exact List.append_cancel_left whole

theorem drop_takeWhile (text : Text) :
    text.drop (text.takeWhile Char.isDigit).length = text.dropWhile Char.isDigit := by
  calc
    text.drop (text.takeWhile Char.isDigit).length =
        (text.takeWhile Char.isDigit ++ text.dropWhile Char.isDigit).drop
          (text.takeWhile Char.isDigit).length := by rw [List.takeWhile_append_dropWhile]
    _ = text.dropWhile Char.isDigit := List.drop_left

theorem leadingDigits?_eq_some_iff {text digits : Text} :
    leadingDigits? text = some digits ↔ ∃ rest, text = digits ++ rest ∧ IsRun digits rest := by
  unfold leadingDigits?
  constructor
  · intro found
    split at found
    · cases found
    · rename_i nonempty
      cases found
      exact ⟨_, List.takeWhile_append_dropWhile.symm,
        isDigits_takeWhile text, nonempty, ends_dropWhile text⟩
  · rintro ⟨rest, rfl, run⟩
    rw [takeWhile_digits run.decimal run.ends, if_neg run.nonempty]

theorem exists_leadingDigits?_iff {text : Text} :
    (∃ digits, leadingDigits? text = some digits) ↔
      ∃ d rest, d.isDigit = true ∧ text = d :: rest := by
  constructor
  · rintro ⟨digits, found⟩
    obtain ⟨rest, rfl, run⟩ := leadingDigits?_eq_some_iff.mp found
    obtain ⟨d, more, rfl⟩ := List.exists_cons_of_ne_nil run.nonempty
    exact ⟨d, more ++ rest, run.decimal d (List.mem_cons_self ..), rfl⟩
  · rintro ⟨d, rest, digit, rfl⟩
    refine ⟨_, if_neg ?_⟩
    rw [List.takeWhile_cons_of_pos digit]
    exact List.cons_ne_nil _ _

def leadingFraction? : Text → Option Text
  | '.' :: rest => (leadingDigits? rest).map ('.' :: ·)
  | _ => none

def leadingUnsigned? (text : Text) : Option Text :=
  (leadingFraction? (text.dropWhile Char.isDigit)).map (text.takeWhile Char.isDigit ++ ·)

/-- The number with a point that a text starts with, if it does. -/
def leadingDecimal? : Text → Option Text :=
  leadingSigned? leadingUnsigned?

theorem leadingFraction?_eq_some_iff {text piece : Text} :
    leadingFraction? text = some piece ↔
      ∃ digits rest, text = '.' :: (digits ++ rest) ∧ IsRun digits rest ∧
        piece = '.' :: digits := by
  unfold leadingFraction?
  split
  · rename_i rest
    rw [Option.map_eq_some_iff]
    constructor
    · rintro ⟨digits, found, rfl⟩
      obtain ⟨behind, rfl, run⟩ := leadingDigits?_eq_some_iff.mp found
      exact ⟨digits, behind, rfl, run, rfl⟩
    · rintro ⟨digits, behind, same, run, rfl⟩
      obtain rfl := (List.cons.inj same).2
      exact ⟨digits, leadingDigits?_eq_some_iff.mpr ⟨behind, rfl, run⟩, rfl⟩
  · rename_i other
    simp only [reduceCtorEq, false_iff, not_exists]
    rintro digits rest ⟨rfl, -⟩
    exact other _ rfl

theorem leadingUnsigned?_eq_some_iff {text piece : Text} :
    leadingUnsigned? text = some piece ↔
      ∃ whole digits rest, IsDigits whole ∧ IsRun digits rest ∧
        text = whole ++ '.' :: (digits ++ rest) ∧ piece = whole ++ '.' :: digits := by
  unfold leadingUnsigned?
  rw [Option.map_eq_some_iff]
  constructor
  · rintro ⟨fraction, found, rfl⟩
    obtain ⟨digits, rest, behind, run, rfl⟩ := leadingFraction?_eq_some_iff.mp found
    refine ⟨_, digits, rest, isDigits_takeWhile text, run, ?_, rfl⟩
    rw [← behind, List.takeWhile_append_dropWhile]
  · rintro ⟨whole, digits, rest, decimal, run, rfl, rfl⟩
    have ends : ∀ c ∈ List.head? ('.' :: (digits ++ rest)), c.isDigit = false := by
      rintro c ⟨⟩
      rfl
    rw [takeWhile_digits decimal ends, dropWhile_digits decimal ends]
    exact ⟨'.' :: digits, leadingFraction?_eq_some_iff.mpr ⟨digits, rest, rfl, run, rfl⟩, rfl⟩

/-- A signed literal is a sign and an unsigned literal behind it. -/
theorem leadingSigned?_eq_some_iff {unsigned? : Text → Option Text}
    (bare : ∀ rest, unsigned? ('-' :: rest) = none) {text piece : Text} :
    leadingSigned? unsigned? text = some piece ↔
      ∃ sign behind body, IsSign sign ∧ unsigned? behind = some body ∧
        text = sign ++ behind ∧ piece = sign ++ body := by
  constructor
  · intro found
    unfold leadingSigned? at found
    split at found
    · rename_i rest
      obtain ⟨body, inner, rfl⟩ := Option.map_eq_some_iff.mp found
      exact ⟨['-'], rest, body, .inr rfl, inner, rfl, rfl⟩
    · exact ⟨[], text, piece, .inl rfl, found, rfl, rfl⟩
  · rintro ⟨sign, behind, body, signed, inner, split, rfl⟩
    rw [split]
    rcases signed with rfl | rfl
    · have unsigned : ∀ c ∈ behind.head?, c ≠ '-' := by
        rintro c first rfl
        obtain ⟨rest, rfl⟩ := List.head?_eq_some_iff.mp first
        rw [bare] at inner
        cases inner
      rw [List.nil_append, leadingSigned?_unsigned _ unsigned]
      exact inner
    · exact Option.map_eq_some_iff.mpr ⟨body, inner, rfl⟩

theorem leadingInteger?_eq_some_iff {text literal : Text} :
    leadingInteger? text = some literal ↔
      ∃ rest, text = literal ++ rest ∧ IntegerBefore literal rest := by
  rw [leadingInteger?, leadingSigned?_eq_some_iff fun _ => rfl]
  constructor
  · rintro ⟨sign, behind, digits, signed, inner, rfl, rfl⟩
    obtain ⟨rest, rfl, run⟩ := leadingDigits?_eq_some_iff.mp inner
    exact ⟨rest, (List.append_assoc ..).symm, sign, digits, signed, run, rfl⟩
  · rintro ⟨rest, rfl, sign, digits, signed, run, rfl⟩
    exact ⟨sign, digits ++ rest, digits, signed, leadingDigits?_eq_some_iff.mpr ⟨rest, rfl, run⟩,
      List.append_assoc .., rfl⟩

theorem leadingDecimal?_eq_some_iff {text literal : Text} :
    leadingDecimal? text = some literal ↔
      ∃ rest, text = literal ++ rest ∧ DecimalBefore literal rest := by
  rw [leadingDecimal?, leadingSigned?_eq_some_iff fun _ => rfl]
  constructor
  · rintro ⟨sign, behind, body, signed, inner, rfl, rfl⟩
    obtain ⟨whole, digits, rest, decimal, run, rfl, rfl⟩ := leadingUnsigned?_eq_some_iff.mp inner
    exact ⟨rest, by simp, sign, whole, digits, signed, decimal, run, rfl⟩
  · rintro ⟨rest, rfl, sign, whole, digits, signed, decimal, run, rfl⟩
    have inner : leadingUnsigned? (whole ++ '.' :: (digits ++ rest)) =
        some (whole ++ '.' :: digits) :=
      leadingUnsigned?_eq_some_iff.mpr ⟨whole, digits, rest, decimal, run, rfl, rfl⟩
    exact ⟨sign, _, _, signed, inner, by simp, rfl⟩

theorem exists_leadingInteger?_iff {text : Text} :
    (∃ literal, leadingInteger? text = some literal) ↔ StartsInteger text := by
  constructor
  · rintro ⟨literal, found⟩
    obtain ⟨rest, rfl, sign, digits, signed, run, rfl⟩ := leadingInteger?_eq_some_iff.mp found
    obtain ⟨d, more, rfl⟩ := List.exists_cons_of_ne_nil run.nonempty
    exact ⟨sign, d, more ++ rest, signed, run.decimal d (List.mem_cons_self ..), by simp⟩
  · rintro ⟨sign, d, rest, signed, digit, rfl⟩
    obtain ⟨digits, found⟩ := exists_leadingDigits?_iff.mpr ⟨d, rest, digit, rfl⟩
    rw [leadingInteger?]
    exact ⟨_, (leadingSigned?_eq_some_iff fun _ => rfl).mpr
      ⟨sign, d :: rest, digits, signed, found, rfl, rfl⟩⟩

theorem exists_leadingDecimal?_iff {text : Text} :
    (∃ literal, leadingDecimal? text = some literal) ↔ StartsDecimal text := by
  constructor
  · rintro ⟨literal, found⟩
    obtain ⟨rest, rfl, sign, whole, digits, signed, decimal, run, rfl⟩ :=
      leadingDecimal?_eq_some_iff.mp found
    obtain ⟨d, more, rfl⟩ := List.exists_cons_of_ne_nil run.nonempty
    have fraction : StartsFraction ('.' :: (d :: more ++ rest)) :=
      ⟨d, more ++ rest, run.decimal d (List.mem_cons_self ..), rfl⟩
    exact ⟨sign, whole, _, signed, decimal, fraction, by simp⟩
  · rintro ⟨sign, whole, _, signed, decimal, ⟨d, rest, digit, rfl⟩, rfl⟩
    obtain ⟨digits, found⟩ := exists_leadingDigits?_iff.mpr ⟨d, rest, digit, rfl⟩
    obtain ⟨behind, split, run⟩ := leadingDigits?_eq_some_iff.mp found
    have inner : leadingUnsigned? (whole ++ '.' :: d :: rest) = some (whole ++ '.' :: digits) :=
      leadingUnsigned?_eq_some_iff.mpr ⟨whole, digits, behind, decimal, run, by rw [split], rfl⟩
    exact ⟨_, (leadingSigned?_eq_some_iff fun _ => rfl).mpr
      ⟨sign, _, _, signed, inner, rfl, rfl⟩⟩

/-! ## The expression of a number with a point -/

def fractionNode : Node :=
  .seq (.set (oneOf [46])) digitsNode

def unsignedNode : Node :=
  .seq (.loop false 0 none (.set digitSet)) fractionNode

def decimalDefinition : Definition where
  name := "floating point"
  matcher := .regex ⟨"-?[0-9]*\\.[0-9]+", {}, signedNode unsignedNode⟩
  ignore := false
  interpret := some interpretFloat
  name_ne_nil := by decide

theorem picks_fraction : Picks fractionNode leadingFraction? := by
  intro state
  unfold leadingFraction?
  split
  · rename_i rest stands
    have behind : (state.advance 1).place.rest = rest := by
      rw [State.rest_advance, stands, List.drop_one, List.tail_cons]
    rw [fractionNode, Node.run, run_set_accepted stands rfl, picks_digits, behind]
    cases leadingDigits? rest with
    | none => rfl
    | some digits =>
        simp only [Option.map_some, State.advance_advance, List.length_cons, Nat.add_comm 1]
  · rename_i other
    have refused : ∀ c ∈ state.place.rest.head?, (oneOf [46]).accepts c = false := by
      intro c first
      rw [Bool.eq_false_iff, Ne, accepts_oneOf, List.mem_singleton]
      intro same
      obtain ⟨rest, stands⟩ := List.head?_eq_some_iff.mp first
      obtain rfl : c = '.' := Char.toNat_inj.mp same
      exact other rest stands
    rw [fractionNode, Node.run, run_set_refused refused]
    rfl

/-- The digits in front of the point are never given back: no point stands in their place. -/
theorem picks_unsigned : Picks unsignedNode leadingUnsigned? := by
  intro state
  have firm : ∀ next : State, ∀ c ∈ next.place.rest.head?, digitSet.accepts c = true →
      fractionNode.run next some = none := by
    intro next c first accepted
    obtain ⟨rest, stands⟩ := List.head?_eq_some_iff.mp first
    rw [picks_fraction, stands, leadingFraction?]
    · rfl
    · rintro _ ⟨⟩
      cases accepted
  rw [unsignedNode, Node.run, run_anyOf firm, picks_fraction, State.rest_advance,
    accepts_digitSet, drop_takeWhile, leadingUnsigned?]
  cases leadingFraction? (state.place.rest.dropWhile Char.isDigit) with
  | none => rfl
  | some fraction =>
      simp only [Option.map_some, State.advance_advance, List.length_append]

theorem matchAt_decimalNode (place : Place) :
    (signedNode unsignedNode).matchAt place = leadingDecimal? place.rest := by
  have picks : Picks (signedNode unsignedNode) leadingDecimal? :=
    picks_unsigned.signed fun _ => rfl
  refine picks.matchAt (fun text literal found => ?_) place
  obtain ⟨rest, rfl, _⟩ := leadingDecimal?_eq_some_iff.mp found
  exact List.prefix_append _ _

theorem decimalDefinition_declines {text : Text} (other : leadingDecimal? text = none) :
    decimalDefinition.Declines text := by
  refine Definition.declines_regex rfl fun place stands => ?_
  rw [← other, ← stands]
  exact matchAt_decimalNode place

theorem decimalDefinition_matches {text literal : Text}
    (found : leadingDecimal? text = some literal) (nonempty : literal ≠ []) :
    decimalDefinition.Matches text literal := by
  refine Definition.matches_regex rfl (fun place stands => ?_) nonempty
  rw [← found, ← stands]
  exact matchAt_decimalNode place

/-! ## Matchers -/

/--
A matcher succeeds at an offset exactly if the text from there on starts as it
should, fails otherwise, and consumes exactly what is a literal in front of the rest.
-/
structure Munches (matcher : Matcher) (starts : Text → Prop) (literal : Text → Text → Prop) :
    Prop where
  succeeds_iff : ∀ (text : Text) (pos : Nat),
    (∃ consumed, matcher.attemptAt text pos = .ok (.success consumed)) ↔ starts (text.drop pos)
  fails_iff : ∀ (text : Text) (pos : Nat),
    matcher.attemptAt text pos = .ok .failure ↔ ¬ starts (text.drop pos)
  consumes_iff : ∀ (text : Text) (pos : Nat) (consumed : Text),
    matcher.attemptAt text pos = .ok (.success consumed) ↔
      ∃ rest, text.drop pos = consumed ++ rest ∧ literal consumed rest

theorem attemptAt_of_matchAt {expression : Regex} {pick? : Text → Option Text}
    (matched : ∀ place, expression.node.matchAt place = pick? place.rest) (text : Text)
    (pos : Nat) :
    (Matcher.regex expression).attemptAt text pos =
      .ok ((pick? (text.drop pos)).elim .failure .success) := by
  rw [Matcher.attemptAt, resultAt, matched, Int.toNat_natCast, Place.rest_ofOffset]
  cases pick? (text.drop pos) with
  | none => rfl
  | some consumed => rfl

/-- An expression that takes what a function picks munches the literals that it picks. -/
theorem munches_of_matchAt {expression : Regex} {pick? : Text → Option Text}
    {starts : Text → Prop} {literal : Text → Text → Prop}
    (matched : ∀ place, expression.node.matchAt place = pick? place.rest)
    (exists_iff : ∀ {text}, (∃ consumed, pick? text = some consumed) ↔ starts text)
    (some_iff : ∀ {text consumed}, pick? text = some consumed ↔
      ∃ rest, text = consumed ++ rest ∧ literal consumed rest) :
    Munches (.regex expression) starts literal := by
  have attempted := attemptAt_of_matchAt matched
  have success (text : Text) (pos : Nat) (consumed : Text) :
      (Matcher.regex expression).attemptAt text pos = .ok (.success consumed) ↔
        pick? (text.drop pos) = some consumed := by
    rw [attempted]
    cases pick? (text.drop pos) with
    | none => simp [Value.success, Value.failure]
    | some other => simp [Value.success]
  refine ⟨fun text pos => ?_, fun text pos => ?_, fun text pos consumed => ?_⟩
  · simp only [success]
    exact exists_iff
  · rw [attempted, ← exists_iff]
    cases pick? (text.drop pos) with
    | none => simp
    | some other => simp [Value.success, Value.failure]
  · rw [success]
    exact some_iff

theorem munches_integer : Munches integerDefinition.matcher StartsInteger IntegerBefore :=
  munches_of_matchAt matchAt_integerNode exists_leadingInteger?_iff leadingInteger?_eq_some_iff

theorem munches_decimal : Munches decimalDefinition.matcher StartsDecimal DecimalBefore :=
  munches_of_matchAt matchAt_decimalNode exists_leadingDecimal?_iff leadingDecimal?_eq_some_iff

section Matched

variable {place : Place} {tracker : Tracker}

theorem leadingInteger?_of_matched {found : Match}
    (matched : integerDefinition.matchHere place tracker = .ok (some found)) :
    leadingInteger? place.rest = some found.consumed := by
  rw [← matchAt_integerNode]
  exact (Definition.matchHere_regex_eq_some rfl matched).2

theorem leadingInteger?_of_declined
    (declined : integerDefinition.matchHere place tracker = .ok none) :
    leadingInteger? place.rest = none := by
  rw [Option.eq_none_iff_forall_ne_some]
  intro literal found
  obtain ⟨rest, -, before⟩ := leadingInteger?_eq_some_iff.mp found
  rw [integerDefinition_matches found before.ne_nil place tracker rfl] at declined
  cases declined

theorem leadingDecimal?_of_declined
    (declined : decimalDefinition.matchHere place tracker = .ok none) :
    leadingDecimal? place.rest = none := by
  rw [Option.eq_none_iff_forall_ne_some]
  intro literal found
  obtain ⟨rest, -, before⟩ := leadingDecimal?_eq_some_iff.mp found
  rw [decimalDefinition_matches found before.ne_nil place tracker rfl] at declined
  cases declined

end Matched

/-- An integer literal that starts no number with a point is followed by no fraction. -/
theorem not_startsFraction {text literal : Text} (found : leadingInteger? text = some literal)
    (other : leadingDecimal? text = none) : ¬ StartsFraction (text.drop literal.length) := by
  obtain ⟨rest, rfl, sign, digits, signed, run, rfl⟩ := leadingInteger?_eq_some_iff.mp found
  rw [List.drop_left]
  intro fraction
  obtain ⟨decimal, found'⟩ := exists_leadingDecimal?_iff.mpr
    ⟨sign, digits, rest, signed, run.decimal, fraction, List.append_assoc ..⟩
  rw [other] at found'
  cases found'

/-- A cut by the integer pattern is followed by no fraction if the other pattern was asked first. -/
theorem not_startsFraction_link {definitions earlier later : List Definition} {text : Text}
    {link : Lexer.Link} (valid : Lexer.IsLink definitions text link)
    (integral : link.definition = integerDefinition)
    (split : definitions = earlier ++ integerDefinition :: later)
    (first : integerDefinition ∉ earlier) (before : decimalDefinition ∈ earlier) :
    ¬ StartsFraction (text.drop link.stop) := by
  have matched := valid.matchedHere
  rw [integral] at matched
  have integer := leadingInteger?_of_matched matched
  have decimal := leadingDecimal?_of_declined
    (valid.declined_of_mem (integral ▸ split) (integral ▸ first) before)
  rw [Place.rest_ofOffset] at integer decimal
  rw [valid.stop_eq, ← List.drop_drop]
  exact not_startsFraction integer decimal

/--
Both number patterns recognise their literals by maximal munch, at every offset of
every text.  So where an integer is matched and no number with a point is, the
integer is not followed by a point and a digit; and no cut that a lexer makes by
the integer pattern is, if the other pattern is registered before it.
-/
theorem numbers_maximal_munch :
    integer.bind Proposal.validate = .ok integerDefinition ∧
    floatingPoint.bind Proposal.validate = .ok decimalDefinition ∧
    Munches integerDefinition.matcher StartsInteger IntegerBefore ∧
    Munches decimalDefinition.matcher StartsDecimal DecimalBefore ∧
    (∀ (text : Text) (pos : Nat) (consumed : Text),
      integerDefinition.matcher.attemptAt text pos = .ok (.success consumed) →
      decimalDefinition.matcher.attemptAt text pos = .ok .failure →
      ¬ StartsFraction (text.drop (pos + consumed.length))) ∧
    ∀ (lexer : Lexer) (earlier later : List Definition) (text : Text) (link : Lexer.Link),
      lexer.patterns = earlier ++ integerDefinition :: later →
      integerDefinition ∉ earlier → decimalDefinition ∈ earlier →
      Lexer.IsLink lexer.patterns text link → link.definition = integerDefinition →
      ¬ StartsFraction (text.drop link.stop) := by
  refine ⟨rfl, rfl, munches_integer, munches_decimal, ?_, ?_⟩
  · intro text pos consumed succeeded failed
    obtain ⟨rest, split, before⟩ := (munches_integer.consumes_iff text pos consumed).mp succeeded
    have other := (munches_decimal.fails_iff text pos).mp failed
    have found : leadingInteger? (text.drop pos) = some consumed :=
      leadingInteger?_eq_some_iff.mpr ⟨rest, split, before⟩
    have none : leadingDecimal? (text.drop pos) = none := by
      rw [Option.eq_none_iff_forall_ne_some]
      exact fun literal found' => other (exists_leadingDecimal?_iff.mp ⟨literal, found'⟩)
    rw [← List.drop_drop]
    exact not_startsFraction found none
  · intro lexer earlier later text link split first before valid integral
    exact not_startsFraction_link valid integral split first before

/-- A sign, and a point that no digit follows, for the matchers and for a lexer of both. -/
theorem numbers_maximal_munch_bare_point :
    (integerDefinition.matcher.attemptAt ['a', '-', '1', '2', '.', 'b'] (1 : Nat) =
        .ok (.success ['-', '1', '2']) ∧
      decimalDefinition.matcher.attemptAt ['a', '-', '1', '2', '.', 'b'] (1 : Nat) =
        .ok .failure ∧
      ¬ StartsFraction (List.drop (1 + 3) ['a', '-', '1', '2', '.', 'b'])) ∧
    ∃ link,
      Lexer.IsLink [decimalDefinition, integerDefinition] ['a', '-', '1', '2', '.', 'b'] link ∧
      link.definition = integerDefinition ∧
      ¬ StartsFraction (List.drop link.stop ['a', '-', '1', '2', '.', 'b']) := by
  have succeeded : integerDefinition.matcher.attemptAt ['a', '-', '1', '2', '.', 'b'] (1 : Nat) =
      .ok (.success ['-', '1', '2']) := rfl
  have failed : decimalDefinition.matcher.attemptAt ['a', '-', '1', '2', '.', 'b'] (1 : Nat) =
      .ok .failure := rfl
  have valid : Lexer.IsLink [decimalDefinition, integerDefinition] ['a', '-', '1', '2', '.', 'b']
      ⟨integerDefinition, 1, 4, ⟨['-', '1', '2'], .bool true, .none⟩, .int (-12)⟩ := by
    refine ⟨⟨[decimalDefinition], [], rfl, List.forall_mem_singleton.mpr ?_⟩, ?_, by decide,
      by decide, by decide, .interpreted rfl ?_⟩
    · rfl
    · rfl
    · rfl
  have other : integerDefinition ∉ [decimalDefinition] := by
    intro inside
    have names := congrArg Definition.name (List.mem_singleton.mp inside)
    revert names
    decide
  refine ⟨⟨succeeded, failed, ?_⟩, _, valid, rfl, ?_⟩
  · exact numbers_maximal_munch.2.2.2.2.1 ['a', '-', '1', '2', '.', 'b'] 1 _ succeeded failed
  · exact numbers_maximal_munch.2.2.2.2.2
      ⟨"numbers", [decimalDefinition, integerDefinition], by decide⟩ [decimalDefinition] [] _ _ rfl
      other (List.mem_singleton.mpr rfl) valid rfl

end Standard

end Lexwork
