import Lexwork.Proofs.Pattern.Number
import Lexwork.Proofs.Position.Lines

/-!
# Integers in a row

Integers in decimal with blanks between them are cut into one token each.  A blank
ends the digits in front of it, and whatever sign or digit stands behind it starts
the next integer, so that every piece is cut as it was written.  The blanks break
no line, so every token stands on the first line, behind all that was written
before it.
-/

namespace Lexwork

namespace Standard

open Lexer
open Regex (IsDigits)

def IsGap (text : Text) : Prop :=
  text ≠ [] ∧ IsBlanks text

/-- Integers in decimal and the separators between them. -/
def joined (numbers : List Int) (separators : List Text) : Text :=
  (alternate (numbers.map Text.ofInt) separators).flatten

/-- The offset at which an integer of a row starts: the length of all before it. -/
def startOf (numbers : List Int) (separators : List Text) (i : Nat) : Nat :=
  (joined (numbers.take i) (separators.take i)).length

def rowPieces (numbers : List Int) (separators : List Text) : List Piece :=
  alternate (numbers.map integerPiece) (separators.map blanksPiece)

/--
Integers that can be read, with a gap between any two of them: the second and
later ones stand behind a separator, the last one stands before none.
-/
inductive IsRow : List Int → List Text → Prop
  | nil : IsRow [] []
  | single {n : Int} (short : (Text.ofNat n.natAbs).length ≤ integerDigitLimit) : IsRow [n] []
  | more {n next : Int} {numbers : List Int} {separator : Text} {separators : List Text}
      (short : (Text.ofNat n.natAbs).length ≤ integerDigitLimit) (gap : IsGap separator)
      (rest : IsRow (next :: numbers) separators) :
      IsRow (n :: next :: numbers) (separator :: separators)

/-- The definitions of blanks and integers, in any order, and maybe of numbers with a point. -/
structure BlanksAndIntegers (definitions : List Definition) : Prop where
  known : ∀ definition ∈ definitions, definition = blankDefinition ∨
    definition = integerDefinition ∨ definition = decimalDefinition
  blanks : blankDefinition ∈ definitions
  integers : integerDefinition ∈ definitions

variable {definitions : List Definition} {numbers : List Int} {separators : List Text}

theorem isRow_of_length (between : separators.length = numbers.length - 1)
    (short : ∀ n ∈ numbers, (Text.ofNat n.natAbs).length ≤ integerDigitLimit)
    (gaps : ∀ separator ∈ separators, IsGap separator) : IsRow numbers separators := by
  induction numbers generalizing separators with
  | nil =>
      obtain rfl := List.length_eq_zero_iff.mp between
      exact .nil
  | cons n numbers ih =>
      obtain ⟨shortHere, shortLater⟩ := List.forall_mem_cons.mp short
      cases numbers with
      | nil =>
          obtain rfl := List.length_eq_zero_iff.mp between
          exact .single shortHere
      | cons next numbers =>
          cases separators with
          | nil => cases between
          | cons separator separators =>
              obtain ⟨gapHere, gapsLater⟩ := List.forall_mem_cons.mp gaps
              exact .more shortHere gapHere (ih (Nat.succ.inj between) shortLater gapsLater)

theorem textOf_rowPieces (numbers : List Int) (separators : List Text) :
    textOf (rowPieces numbers separators) = joined numbers separators := by
  rw [textOf, List.flatMap_def, rowPieces, map_alternate, List.map_map, List.map_map, joined]
  exact congrArg (fun texts => (alternate _ texts).flatten) (List.map_id separators)

/-- An integer starts a number with a point only if a point follows its digits. -/
theorem leadingDecimal?_ofInt (n : Int) {behind : Text}
    (ends : ∀ c ∈ behind.head?, c.isDigit = false) :
    leadingDecimal? (Text.ofInt n ++ behind) =
      (leadingFraction? behind).map (Text.ofInt n ++ ·) := by
  have unsigned (k : Nat) : leadingUnsigned? (Text.ofNat k ++ behind) =
      (leadingFraction? behind).map (Text.ofNat k ++ ·) := by
    have decimal : IsDigits (Text.ofNat k) := fun _ => Text.isDigit_of_mem_ofNat
    rw [leadingUnsigned?, takeWhile_digits decimal ends, dropWhile_digits decimal ends]
  cases n with
  | ofNat n =>
      have bare : ∀ c ∈ (Text.ofNat n ++ behind).head?, c ≠ '-' := by
        rintro c first rfl
        cases Text.isDigit_of_head_ofNat first
      rw [Text.ofInt, leadingDecimal?, leadingSigned?_unsigned _ bare, unsigned]
  | negSucc n =>
      rw [Text.ofInt, List.cons_append, leadingDecimal?, leadingSigned?, unsigned, Option.map_map]
      rfl

theorem noDigit_of_blank {behind : Text} (ends : ∀ c ∈ behind.head?, c = ' ' ∨ c = '\t') :
    ∀ c ∈ behind.head?, c.isDigit = false := by
  intro c first
  rcases ends c first with rfl | rfl <;> rfl

/-- Blanks or nothing behind an integer make it one for the definition of integers alone. -/
theorem BlanksAndIntegers.integer_comesFirst (order : BlanksAndIntegers definitions) (n : Int)
    {behind : Text} (ends : ∀ c ∈ behind.head?, c = ' ' ∨ c = '\t') :
    ComesFirst integerDefinition definitions (Text.ofInt n ++ behind) := by
  have noFraction : leadingFraction? behind = none := by
    unfold leadingFraction?
    split
    · rcases ends '.' rfl with same | same <;> cases same
    · rfl
  refine comesFirst_of_mem order.integers fun other listed => ?_
  rcases order.known other listed with rfl | rfl | rfl
  · exact .inr (blankDefinition_declines (solid_ofInt n behind))
  · exact .inl rfl
  · refine .inr (decimalDefinition_declines ?_)
    rw [leadingDecimal?_ofInt n (noDigit_of_blank ends), noFraction]
    rfl

theorem BlanksAndIntegers.blank_comesFirst (order : BlanksAndIntegers definitions) {gap : Text}
    (isGap : IsGap gap) (behind : Text) :
    ComesFirst blankDefinition definitions (gap ++ behind) := by
  obtain ⟨nonempty, blank⟩ := isGap
  obtain ⟨c, more, rfl⟩ := List.exists_cons_of_ne_nil nonempty
  refine comesFirst_of_mem order.blanks fun other listed => ?_
  rcases order.known other listed with rfl | rfl | rfl
  · exact .inl rfl
  · rcases blank c (List.mem_cons_self ..) with rfl | rfl <;>
      exact .inr (integerDefinition_declines rfl)
  · rcases blank c (List.mem_cons_self ..) with rfl | rfl <;>
      exact .inr (decimalDefinition_declines rfl)

theorem BlanksAndIntegers.takes_integer (order : BlanksAndIntegers definitions) {n : Int}
    {behind : Text} (short : (Text.ofNat n.natAbs).length ≤ integerDigitLimit)
    (ends : ∀ c ∈ behind.head?, c = ' ' ∨ c = '\t') :
    Takes definitions (integerPiece n) behind :=
  takes_integerPiece (order.integer_comesFirst n ends) short (noDigit_of_blank ends)

/-! ## A row -/

theorem solid_joined (n : Int) (numbers : List Int) (separators : List Text) :
    (joined (n :: numbers) separators).takeWhile blankSet.accepts = [] := by
  cases separators with
  | nil => exact solid_ofInt n _
  | cons separator separators => exact solid_ofInt n _

theorem takesAll_rowPieces (order : BlanksAndIntegers definitions)
    (row : IsRow numbers separators) : TakesAll definitions (rowPieces numbers separators) [] := by
  induction row with
  | nil => trivial
  | single short => exact ⟨order.takes_integer short (fun _ first => nomatch first), trivial⟩
  | @more n next numbers separator separators short gap rest ih =>
      have solid : (textOf (rowPieces (next :: numbers) separators) ++ []).takeWhile
          blankSet.accepts = [] := by
        rw [List.append_nil, textOf_rowPieces]
        exact solid_joined next numbers separators
      obtain ⟨nonempty, blank⟩ := gap
      refine ⟨order.takes_integer short ?_,
        takes_blanksPiece (order.blank_comesFirst ⟨nonempty, blank⟩ _) nonempty blank solid, ih⟩
      obtain ⟨c, more, rfl⟩ := List.exists_cons_of_ne_nil nonempty
      rintro _ ⟨⟩
      exact blank c (List.mem_cons_self ..)

theorem IsGap.unbroken {gap : Text} (isGap : IsGap gap) : gap.Unbroken := by
  constructor
  · intro inside
    rcases isGap.2 _ inside with same | same <;> cases same
  · intro inside
    rcases isGap.2 _ inside with same | same <;> cases same

theorem unbroken_ofInt (n : Int) : (Text.ofInt n).Unbroken := by
  have digits (k : Nat) : (Text.ofNat k).Unbroken :=
    ⟨fun inside => (nomatch Text.isDigit_of_mem_ofNat inside),
      fun inside => (nomatch Text.isDigit_of_mem_ofNat inside)⟩
  cases n with
  | ofNat n => exact digits n
  | negSucc n => exact Text.unbroken_cons_iff.mpr ⟨by decide, digits (n + 1)⟩

theorem startOf_succ (n : Int) (numbers : List Int) (separator : Text) (separators : List Text)
    (i : Nat) : startOf (n :: numbers) (separator :: separators) (i + 1) =
      (Text.ofInt n).length + separator.length + startOf numbers separators i := by
  simp [startOf, joined, alternate, Nat.add_assoc]

/-- The text of an integer stands at the offset where it is said to start. -/
theorem stands_at_startOf (row : IsRow numbers separators) {i : Nat} {n : Int}
    (listed : numbers[i]? = some n) :
    Text.ofInt n <+: (joined numbers separators).drop (startOf numbers separators i) := by
  induction row generalizing i with
  | nil => cases listed
  | single short =>
      cases i with
      | zero =>
          cases listed
          exact ⟨[], rfl⟩
      | succ i => cases listed
  | @more first next numbers separator separators short gap rest ih =>
      cases i with
      | zero =>
          cases listed
          exact ⟨_, rfl⟩
      | succ i =>
          have split : joined (first :: next :: numbers) (separator :: separators) =
              (Text.ofInt first ++ separator) ++ joined (next :: numbers) separators := by
            rw [List.append_assoc]
            rfl
          rw [split, startOf_succ, ← List.length_append, ← List.drop_drop, List.drop_left]
          exact ih listed

/-- Every integer of a row makes one token, on the line of the first and where it was written. -/
theorem tokensFrom_rowPieces (row : IsRow numbers separators) (tracker : Tracker) :
    tokensFrom tracker (rowPieces numbers separators) =
      numbers.mapIdx fun i n => ⟨.int n, "integer", tracker.line,
        tracker.character + startOf numbers separators i⟩ := by
  induction row generalizing tracker with
  | nil => rfl
  | single short => rfl
  | @more n next numbers separator separators short gap rest ih =>
      obtain ⟨line, character⟩ := tracker.consume_unbroken (unbroken_ofInt n)
      obtain ⟨line', character'⟩ := (tracker.consume (Text.ofInt n)).consume_unbroken gap.unbroken
      have later : tokensFrom tracker (rowPieces (n :: next :: numbers) (separator :: separators)) =
          ⟨.int n, "integer", tracker.line, tracker.character⟩ ::
            tokensFrom ((tracker.consume (Text.ofInt n)).consume separator)
              (rowPieces (next :: numbers) separators) := rfl
      rw [later, ih, line', character', line, character]
      symm
      rw [List.mapIdx_cons]
      simp only [startOf_succ, Nat.add_assoc]
      rfl

theorem exists_lexer_of_order {proposals : List (Except Fault Proposal)}
    (order : proposals = [whitespace, integer] ∨
      proposals = [whitespace, floatingPoint, integer] ∨
      proposals = [floatingPoint, whitespace, integer]) :
    ∃ lexer, ofProposals proposals = .ok lexer ∧ BlanksAndIntegers lexer.patterns := by
  rcases order with rfl | rfl | rfl
  · exact ⟨⟨"unnamedlanguage", [blankDefinition, integerDefinition], by decide⟩, rfl,
      by simp, by simp, by simp⟩
  · exact ⟨⟨"unnamedlanguage", [blankDefinition, decimalDefinition, integerDefinition], by decide⟩,
      rfl, by simp, by simp, by simp⟩
  · exact ⟨⟨"unnamedlanguage", [decimalDefinition, blankDefinition, integerDefinition], by decide⟩,
      rfl, by simp, by simp, by simp⟩

/--
Integers in decimal with blanks between them are cut into exactly one token each,
with the integer as its content, on the first line and at the character where its
text starts, whether numbers with a point are looked for before integers or not.
-/
theorem tokenize_joined (numbers : List Int) (separators : List Text)
    (proposals : List (Except Fault Proposal))
    (between : separators.length = numbers.length - 1)
    (short : ∀ n ∈ numbers, (Text.ofNat n.natAbs).length ≤ integerDigitLimit)
    (gaps : ∀ separator ∈ separators, IsGap separator)
    (order : proposals = [whitespace, integer] ∨
      proposals = [whitespace, floatingPoint, integer] ∨
      proposals = [floatingPoint, whitespace, integer]) :
    ∃ lexer, ofProposals proposals = .ok lexer ∧
      lexer.tokenize (.str (joined numbers separators)) =
        .ok (numbers.mapIdx fun i n =>
          ⟨.int n, "integer", 1, 1 + startOf numbers separators i⟩) ∧
      ∀ i n, numbers[i]? = some n →
        Text.ofInt n <+: (joined numbers separators).drop (startOf numbers separators i) := by
  obtain ⟨lexer, built, ordered⟩ := exists_lexer_of_order order
  have registered : lexer.patterns ≠ [] := List.ne_nil_of_mem ordered.blanks
  have row := isRow_of_length between short gaps
  have cut := tokenize_textOf registered (takesAll_rowPieces ordered row)
  rw [textOf_rowPieces, tokensFrom_rowPieces row] at cut
  exact ⟨lexer, built, cut, fun _ _ => stands_at_startOf row⟩

/-- A sign right behind a blank, and blanks of both kinds. -/
theorem tokenize_joined_signs :
    [[' '], ['\t', ' ']].length = [12, -7, 0].length - 1 ∧
      (∀ n ∈ [12, -7, 0], (Text.ofNat (Int.natAbs n)).length ≤ integerDigitLimit) ∧
      (∀ separator ∈ [[' '], ['\t', ' ']], IsGap separator) ∧
      ∃ lexer, ofProposals [whitespace, floatingPoint, integer] = .ok lexer ∧
        lexer.tokenize "12 -7\t 0" = .ok
          [⟨.int 12, "integer", 1, 1⟩, ⟨.int (-7), "integer", 1, 4⟩,
            ⟨.int 0, "integer", 1, 8⟩] := by
  have short : ∀ n ∈ [12, -7, 0], (Text.ofNat (Int.natAbs n)).length ≤ integerDigitLimit := by
    decide
  have gaps : ∀ separator ∈ [[' '], ['\t', ' ']], IsGap separator := by
    simp [IsGap, IsBlanks]
  obtain ⟨lexer, built, cut, -⟩ :=
    tokenize_joined [12, -7, 0] [[' '], ['\t', ' ']] _ rfl short gaps (.inr (.inl rfl))
  refine ⟨rfl, short, gaps, lexer, built, ?_⟩
  have text : joined [12, -7, 0] [[' '], ['\t', ' ']] = "12 -7\t 0" := by decide
  rw [text] at cut
  exact cut

end Standard

end Lexwork
