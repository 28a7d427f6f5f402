import Lexwork.Pattern.Standard
import Lexwork.Proofs.Lexer.Pieces
import Lexwork.Proofs.Number.Decimal
import Lexwork.Proofs.Regex.Greedy

/-!
# What the standard patterns recognise

An integer literal is an optional minus sign and the longest run of digits
behind it, which is not empty; a sign without a digit is no start of one.  Blanks
within a line are taken as far as they go.
-/

namespace Lexwork

namespace Standard

open Regex

/-- The set of the characters with the given codes. -/
def oneOf (codes : List Nat) : CharSet :=
  ⟨false, false, codes.map .single⟩

theorem accepts_oneOf (codes : List Nat) (c : Char) :
    (oneOf codes).accepts c = true ↔ c.toNat ∈ codes := by
  have holds (code : Nat) : (SetItem.single code).holds c = true ↔ code = c.toNat := by
    simp only [SetItem.single, SetItem.holds, Bool.and_eq_true, decide_eq_true_eq]
    omega
  simp [oneOf, CharSet.accepts, CharSet.covers, holds]

def digitSet : CharSet :=
  ⟨false, false, [.range 48 57]⟩

theorem accepts_digitSet : digitSet.accepts = Char.isDigit := by
  funext c
  rw [Bool.eq_iff_iff, Text.isDigit_iff]
  simp [digitSet, CharSet.accepts, CharSet.covers, SetItem.holds]

def blankSet : CharSet :=
  oneOf [32, 9]

def IsBlanks (text : Text) : Prop :=
  ∀ c ∈ text, c = ' ' ∨ c = '\t'

theorem accepts_blankSet (c : Char) : blankSet.accepts c = true ↔ c = ' ' ∨ c = '\t' := by
  rw [blankSet, accepts_oneOf]
  simp only [List.mem_cons, List.not_mem_nil, or_false]
  exact or_congr (Char.toNat_inj (d := ' ')) (Char.toNat_inj (d := '\t'))

theorem IsBlanks.append {first second : Text} (before : IsBlanks first) (after : IsBlanks second) :
    IsBlanks (first ++ second) :=
  List.forall_mem_append.mpr ⟨before, after⟩

def blankDefinition : Definition where
  name := "whitespace"
  matcher := .regex ⟨"[ \\t]+", {}, .seq (.loop false 1 none (.set blankSet)) .empty⟩
  ignore := true
  interpret := none
  name_ne_nil := by decide

def blanksPiece (blanks : Text) : Lexer.Piece :=
  ⟨blankDefinition, blanks, .str blanks⟩

def blankPiece : Lexer.Piece :=
  ⟨blankDefinition, [' '], .str [' ']⟩

theorem blankDefinition_declines {text : Text} (solid : text.takeWhile blankSet.accepts = []) :
    blankDefinition.Declines text := by
  refine Definition.declines_regex rfl fun place stands => ?_
  refine matchAt_someOf_refused ?_
  rw [stands]
  exact Text.takeWhile_eq_nil_iff.mp solid

theorem blankDefinition_matches {blanks behind : Text} (nonempty : blanks ≠ [])
    (blank : IsBlanks blanks) (solid : behind.takeWhile blankSet.accepts = []) :
    blankDefinition.Matches (blanks ++ behind) blanks := by
  have accepted : ∀ c ∈ blanks, blankSet.accepts c = true :=
    fun c inside => (accepts_blankSet c).mpr (blank c inside)
  have taken : (blanks ++ behind).takeWhile blankSet.accepts = blanks := by
    rw [List.takeWhile_append_of_pos accepted, solid, List.append_nil]
  refine Definition.matches_regex rfl (fun place stands => ?_) nonempty
  have here : place.rest.takeWhile blankSet.accepts = blanks := stands ▸ taken
  exact (matchAt_someOf (here ▸ nonempty)).trans (congrArg some here)

theorem blankDefinition_matches_single {behind : Text}
    (solid : behind.takeWhile blankSet.accepts = []) :
    blankDefinition.Matches ([' '] ++ behind) [' '] :=
  blankDefinition_matches (List.cons_ne_nil ' ' []) (List.forall_mem_singleton.mpr (.inl rfl)) solid

section Blanks

variable {definitions : List Definition} {behind : Text}

theorem takes_blanksPiece {blanks : Text}
    (first : Lexer.ComesFirst blankDefinition definitions (blanks ++ behind))
    (nonempty : blanks ≠ []) (blank : IsBlanks blanks)
    (solid : behind.takeWhile blankSet.accepts = []) :
    Lexer.Takes definitions (blanksPiece blanks) behind :=
  Lexer.takes_of_matches first (blankDefinition_matches nonempty blank solid) rfl

theorem takes_blankPiece (first : Lexer.ComesFirst blankDefinition definitions ([' '] ++ behind))
    (solid : behind.takeWhile blankSet.accepts = []) :
    Lexer.Takes definitions blankPiece behind :=
  Lexer.takes_of_matches first (blankDefinition_matches_single solid) rfl

end Blanks

theorem isBlanks_of_matched {place : Place} {tracker : Tracker} {found : Match}
    (matched : blankDefinition.matchHere place tracker = .ok (some found)) :
    IsBlanks found.consumed := by
  have taken := (Definition.matchHere_regex_eq_some rfl matched).2
  by_cases solid : place.rest.takeWhile blankSet.accepts = []
  · rw [matchAt_someOf_refused (Text.takeWhile_eq_nil_iff.mp solid)] at taken
    cases taken
  · rw [matchAt_someOf solid] at taken
    rw [← Option.some.inj taken]
    intro c inside
    exact (accepts_blankSet c).mp (List.all_eq_true.mp List.all_takeWhile c inside)

/-! ## Integers -/

/-- The digits that a text starts with, if there are any. -/
def leadingDigits? (text : Text) : Option Text :=
  if text.takeWhile Char.isDigit = [] then none else some (text.takeWhile Char.isDigit)

/-- What a text starts with behind an optional minus sign, together with the sign. -/
def leadingSigned? (unsigned? : Text → Option Text) : Text → Option Text
  | '-' :: rest => (unsigned? rest).map ('-' :: ·)
  | text => unsigned? text

/-- The integer literal that a text starts with, if there is one. -/
def leadingInteger? : Text → Option Text :=
  leadingSigned? leadingDigits?

theorem leadingSigned?_unsigned (unsigned? : Text → Option Text) {text : Text}
    (bare : ∀ c ∈ text.head?, c ≠ '-') : leadingSigned? unsigned? text = unsigned? text := by
  unfold leadingSigned?
  split
  · exact absurd rfl (bare '-' rfl)
  · rfl

/-- A node takes from the rest of a text what a function picks there, if nothing has to follow. -/
def Picks (node : Node) (pick? : Text → Option Text) : Prop :=
  ∀ state, node.run state some =
    (pick? state.place.rest).map fun piece => state.advance piece.length

theorem Picks.matchAt {node : Node} {pick? : Text → Option Text} (picks : Picks node pick?)
    (starts : ∀ text piece, pick? text = some piece → piece <+: text) (place : Place) :
    node.matchAt place = pick? place.rest := by
  have ran : node.run (.initial place) some =
      (pick? place.rest).map fun piece => (State.initial place).advance piece.length := picks _
  cases found : pick? place.rest with
  | none =>
      rw [found] at ran
      exact matchAt_of_run_none ran
  | some piece =>
      rw [found] at ran
      rw [matchAt_of_run ran, ← List.prefix_iff_eq_take.mp (starts _ _ found)]

def digitsNode : Node :=
  .seq (.loop false 1 none (.set digitSet)) .empty

def signedNode (body : Node) : Node :=
  .seq (.loop false 0 (some 1) (.set (oneOf [45]))) body

def integerNode : Node :=
  signedNode digitsNode

def integerDefinition : Definition where
  name := "integer"
  matcher := .regex ⟨"-?[0-9]+", {}, integerNode⟩
  ignore := false
  interpret := some interpretInteger
  name_ne_nil := by decide

theorem picks_digits : Picks digitsNode leadingDigits? := by
  intro state
  unfold leadingDigits?
  split
  · rename_i empty
    rw [← accepts_digitSet] at empty
    exact run_someOf_refused (Text.takeWhile_eq_nil_iff.mp empty)
  · rename_i taken
    rw [← accepts_digitSet] at taken ⊢
    exact run_someOf taken rfl

/-- A sign in front is taken with what follows it, which cannot start with the sign itself. -/
theorem Picks.signed {body : Node} {unsigned? : Text → Option Text} (picks : Picks body unsigned?)
    (bare : ∀ rest, unsigned? ('-' :: rest) = none) :
    Picks (signedNode body) (leadingSigned? unsigned?) := by
  intro state
  by_cases signed : state.place.rest.head? = some '-'
  · obtain ⟨rest, stands⟩ := List.head?_eq_some_iff.mp signed
    have behind : (state.advance 1).place.rest = rest := by
      rw [State.rest_advance, stands, List.drop_one, List.tail_cons]
    have given : body.run state some = none := by
      rw [picks, stands, bare]
      rfl
    rw [signedNode, Node.run, run_optional_accepted stands rfl, given, picks, behind, stands,
      leadingSigned?]
    cases unsigned? rest with
    | none => rfl
    | some piece =>
        simp only [Option.map_some, State.advance_advance, List.length_cons, Nat.add_comm 1]
        rfl
  · have unsigned : ∀ c ∈ state.place.rest.head?, c ≠ '-' := by
      rintro c first rfl
      exact signed first
    have refused : ∀ c ∈ state.place.rest.head?, (oneOf [45]).accepts c = false := by
      intro c first
      rw [Bool.eq_false_iff, Ne, accepts_oneOf, List.mem_singleton]
      exact fun same => unsigned c first (Char.toNat_inj.mp same)
    rw [signedNode, Node.run, run_optional_refused refused, leadingSigned?_unsigned _ unsigned]
    exact picks state

theorem starts_of_leadingDigits? {text digits : Text} (found : leadingDigits? text = some digits) :
    digits <+: text := by
  unfold leadingDigits? at found
  split at found
  · cases found
  · cases found
    exact List.takeWhile_prefix _

theorem starts_of_leadingSigned? {unsigned? : Text → Option Text}
    (starts : ∀ text piece, unsigned? text = some piece → piece <+: text) {text piece : Text}
    (found : leadingSigned? unsigned? text = some piece) : piece <+: text := by
  unfold leadingSigned? at found
  split at found
  · rename_i rest
    obtain ⟨body, inner, rfl⟩ := Option.map_eq_some_iff.mp found
    exact List.cons_prefix_cons.mpr ⟨rfl, starts rest body inner⟩
  · exact starts _ _ found

theorem matchAt_integerNode (place : Place) :
    integerNode.matchAt place = leadingInteger? place.rest := by
  have picks : Picks integerNode leadingInteger? := picks_digits.signed fun _ => rfl
  exact picks.matchAt
    (fun _ _ => starts_of_leadingSigned? fun _ _ => starts_of_leadingDigits?) place

theorem integerDefinition_declines {text : Text} (other : leadingInteger? text = none) :
    integerDefinition.Declines text := by
  refine Definition.declines_regex rfl fun place stands => ?_
  rw [← other, ← stands]
  exact matchAt_integerNode place

theorem integerDefinition_matches {text literal : Text}
    (found : leadingInteger? text = some literal) (nonempty : literal ≠ []) :
    integerDefinition.Matches text literal := by
  refine Definition.matches_regex rfl (fun place stands => ?_) nonempty
  rw [← found, ← stands]
  exact matchAt_integerNode place

theorem leadingInteger?_ofInt (n : Int) {behind : Text}
    (ends : ∀ c ∈ behind.head?, c.isDigit = false) :
    leadingInteger? (Text.ofInt n ++ behind) = some (Text.ofInt n) := by
  have run (k : Nat) : leadingDigits? (Text.ofNat k ++ behind) = some (Text.ofNat k) := by
    have stopped : behind.takeWhile Char.isDigit = [] := Text.takeWhile_eq_nil_iff.mpr ends
    have taken : (Text.ofNat k ++ behind).takeWhile Char.isDigit = Text.ofNat k := by
      rw [List.takeWhile_append_of_pos fun _ => Text.isDigit_of_mem_ofNat, stopped,
        List.append_nil]
    rw [leadingDigits?, taken, if_neg (Text.ofNat_ne_nil k)]
  cases n with
  | ofNat n =>
      have unsigned : ∀ c ∈ (Text.ofNat n ++ behind).head?, c ≠ '-' := by
        rintro c first rfl
        cases Text.isDigit_of_head_ofNat first
      rw [Text.ofInt, leadingInteger?, leadingSigned?_unsigned _ unsigned, run]
  | negSucc n =>
      rw [Text.ofInt, List.cons_append, leadingInteger?, leadingSigned?, run]
      rfl

def integerPiece (n : Int) : Lexer.Piece :=
  ⟨integerDefinition, Text.ofInt n, .int n⟩

theorem solid_ofInt (n : Int) (behind : Text) :
    (Text.ofInt n ++ behind).takeWhile blankSet.accepts = [] := by
  refine Text.takeWhile_eq_nil_iff.mpr fun c first => ?_
  have codes := Text.toNat_of_head_ofInt first
  rw [Bool.eq_false_iff, Ne, blankSet, accepts_oneOf]
  simp only [List.mem_cons, List.not_mem_nil, or_false]
  omega

theorem contentOf_ofInt {n : Int} (short : (Text.ofNat n.natAbs).length ≤ integerDigitLimit) :
    integerDefinition.contentOf ⟨Text.ofInt n, .bool true, .none⟩ = .ok (.int n) := by
  change interpretInteger (Text.ofInt n) = .ok (.int n)
  rw [interpretInteger, Text.readInteger_ofInt n short]

section Integers

variable {definitions : List Definition} {behind : Text}

/-- An integer literal is taken if it is the one that the text starts with. -/
theorem takes_literal {literal : Text} {content : Value}
    (first : Lexer.ComesFirst integerDefinition definitions (literal ++ behind))
    (leading : leadingInteger? (literal ++ behind) = some literal) (nonempty : literal ≠ [])
    (carried : integerDefinition.contentOf ⟨literal, .bool true, .none⟩ = .ok content) :
    Lexer.Takes definitions ⟨integerDefinition, literal, content⟩ behind :=
  Lexer.takes_of_matches first (integerDefinition_matches leading nonempty) carried

/-- The decimal text of an integer is taken whole if no digit follows it. -/
theorem takes_integerPiece {n : Int}
    (first : Lexer.ComesFirst integerDefinition definitions (Text.ofInt n ++ behind))
    (short : (Text.ofNat n.natAbs).length ≤ integerDigitLimit)
    (ends : ∀ c ∈ behind.head?, c.isDigit = false) :
    Lexer.Takes definitions (integerPiece n) behind :=
  takes_literal first (leadingInteger?_ofInt n ends) (Text.ofInt_ne_nil n) (contentOf_ofInt short)

end Integers

end Standard

end Lexwork
