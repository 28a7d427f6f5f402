import Lexwork.Proofs.Pattern.Standard
import Lexwork.Proofs.Regex.Lexemes

/-!
# Constants

A constant is recognised by the expression that its escaped text reads as.  A
character that means something in a pattern stands behind a backslash there, and
no other character means anything but itself.  So the expression is the sequence
of the characters, and it matches where the text goes on with just these.
-/

namespace Lexwork

namespace Regex

/-- The unit of an escaped text that stands for a character. -/
def escapedGlyph (c : Char) : Glyph :=
  ⟨specialChars.contains c, c⟩

theorem ne_of_ordinary {c d : Char} (ordinary : specialChars.contains c = false)
    (special : specialChars.contains d = true) : c ≠ d := by
  rintro rfl
  exact Bool.false_ne_true (ordinary.symm.trans special)

theorem ofText_escape (literal : Text) :
    Glyph.ofText (escape literal) = literal.map escapedGlyph := by
  induction literal with
  | nil => rfl
  | cons c literal ih =>
      rw [escape, List.flatMap_cons, List.map_cons, ← ih, escapedGlyph]
      cases special : specialChars.contains c with
      | true => rfl
      | false => exact Glyph.ofText_cons (ne_of_ordinary special (by decide)) _

theorem dangling_escape (literal : Text) : Glyph.dangling (escape literal) = false := by
  induction literal with
  | nil => rfl
  | cons c literal ih =>
      rw [escape, List.flatMap_cons]
      cases special : specialChars.contains c with
      | true => exact ih
      | false => exact (Glyph.dangling_cons (ne_of_ordinary special (by decide)) _).trans ih

/-- Only letters name anchors, classes, control characters or codes behind a backslash. -/
theorem no_escape_of_symbol {c : Char} (symbol : c.isAlphanum = false) :
    anchorEscape? c = none ∧ categoryEscape? c = none ∧ namedControl? c = none ∧
      hexEscapeSize? c = none := by
  rw [anchorEscape?, categoryEscape?, namedControl?, hexEscapeSize?]
  · exact ⟨rfl, rfl, rfl, rfl⟩
  -- What is left is that the character is none of the letters in these tables.
  all_goals
    rintro rfl
    cases symbol

/-- A character that is neither a letter nor a digit stands for itself behind a backslash. -/
theorem readEscape_symbol {c : Char} (symbol : c.isAlphanum = false) (offset : Nat)
    (rest : List Glyph) : readEscape offset c rest = .found 1 (.literal c.toNat) := by
  obtain ⟨anchor, category, control, hex⟩ := no_escape_of_symbol symbol
  have digit : c.isDigit = false := by
    simp only [Char.isAlphanum, Bool.or_eq_false_iff] at symbol
    exact symbol.2
  have zero : c ≠ '0' := by
    rintro rfl
    cases digit
  simp only [readEscape, anchor, category, zero, if_false, digit, Bool.false_eq_true,
    readCodeEscape, control, hex, symbol]
  rfl

theorem isAlphanum_of_special {c : Char} (special : specialChars.contains c = true) :
    c.isAlphanum = false := by
  have all : specialChars.all (fun c => !c.isAlphanum) = true := by decide
  have here := List.all_eq_true.mp all c (List.contains_iff_mem.mp special)
  simpa using here

theorem readPlain_ordinary {c : Char} (ordinary : specialChars.contains c = false) (offset : Nat)
    (rest : List Glyph) : readPlain false offset c rest = .found 1 (.literal c.toNat) := by
  rw [readPlain, if_neg (ne_of_ordinary ordinary (by decide)),
    if_neg (ne_of_ordinary ordinary (by decide))]
  · rfl
  all_goals exact ne_of_ordinary ordinary (by decide)

theorem readLexeme_escapedGlyph (c : Char) (offset : Nat) (rest : List Glyph) :
    readLexeme false offset (escapedGlyph c) rest = .found 1 (.literal c.toNat) := by
  unfold readLexeme escapedGlyph
  cases special : specialChars.contains c with
  | true => exact readEscape_symbol (isAlphanum_of_special special) offset rest
  | false => exact readPlain_ordinary special offset rest

def characterNode (c : Char) : Node :=
  .set (Standard.oneOf [c.toNat])

/-- The node of the characters of a text in sequence. -/
def textNode (literal : Text) : Node :=
  Node.concat (literal.map characterNode)

/-- The units of an escaped text add one character each to the items read. -/
theorem takeAll_escaped (literal : Text) (builder : Builder) (offset : Nat)
    (exactCase : builder.flags.fold = false) :
    builder.takeAll (lexemes false false 0 offset (literal.map escapedGlyph)) =
      .ok { builder with
        current := { builder.current with
          items := (literal.map fun c => ⟨characterNode c, .ordinary⟩).reverse ++
            builder.current.items } } := by
  induction literal generalizing builder offset with
  | nil => rfl
  | cons c literal ih =>
      rw [List.map_cons, lexemes, readLexeme_escapedGlyph]
      simp only [Reading.found, Bool.false_and, Bool.false_eq_true, if_false, Builder.takeAll,
        Builder.take, Lexeme.verboseAfter]
      rw [ih]
      · simp [Builder.addSet, Builder.add, Branches.add, exactCase, characterNode, Standard.oneOf]
      · exact exactCase

theorem compile_escape (literal : Text) :
    compile (escape literal) {} = .ok ⟨escape literal, {}, textNode literal⟩ := by
  rw [compile, readPattern, ofText_escape, dangling_escape, takeAll_escaped _ _ _ rfl]
  simp [Builder.finish, Branches.node, Branches.lastBranch, Branches.empty, textNode,
    Node.either, Except.map, Function.comp_def]

theorem accepts_character (c d : Char) : (Standard.oneOf [c.toNat]).accepts d = true ↔ d = c := by
  rw [Standard.accepts_oneOf, List.mem_singleton, Char.toNat_inj]

/-- The characters of a text lead on exactly where the text goes on with them. -/
theorem run_textNode (literal : Text) (state : State) (k : Continuation) :
    (textNode literal).run state k =
      if literal <+: state.place.rest then k (state.advance literal.length) else none := by
  induction literal generalizing state with
  | nil =>
      have here : state.advance 0 = state := by simp [State.advance]
      rw [if_pos List.nil_prefix, List.length_nil, here]
      rfl
  | cons c literal ih =>
      change (characterNode c).run state (fun next => (textNode literal).run next k) = _
      cases stands : state.place.rest with
      | nil =>
          rw [if_neg (by simp)]
          exact run_set_refused (by rw [stands]; exact nofun)
      | cons d rest =>
          simp only [List.cons_prefix_cons]
          by_cases same : c = d
          · have behind : (state.advance 1).place.rest = rest := by
              rw [State.rest_advance, stands, List.drop_one, List.tail_cons]
            rw [characterNode, run_set_accepted stands ((accepts_character c d).mpr same.symm), ih,
              behind, State.advance_advance, Nat.add_comm, List.length_cons]
            simp only [same, true_and]
          · have refused : (Standard.oneOf [c.toNat]).accepts d = false := by
              rw [Bool.eq_false_iff, Ne, accepts_character]
              exact fun other => same other.symm
            rw [if_neg fun both => same both.1]
            refine run_set_refused ?_
            rw [stands]
            rintro _ ⟨⟩
            exact refused

theorem matchAt_textNode (literal : Text) (place : Place) :
    (textNode literal).matchAt place = if literal <+: place.rest then some literal else none := by
  have ran := run_textNode literal (.initial place) some
  by_cases stands : literal <+: place.rest
  · rw [if_pos stands]
    rw [if_pos (by exact stands)] at ran
    rw [matchAt_of_run ran, ← List.prefix_iff_eq_take.mp stands]
  · rw [if_neg stands]
    rw [if_neg (by exact stands)] at ran
    exact matchAt_of_run_none ran

end Regex

namespace Standard

open Regex

/--
Every constant can be defined.  Its matcher succeeds at an offset exactly if the
text goes on with the constant there, and then consumes just that; it matches the
empty text only if the constant is empty.
-/
theorem constant_matches_literal (literal : Text) (name : Value) :
    ∃ expression, constant literal name =
        .ok ⟨name, .matcher (.regex expression), .bool false, .absent⟩ ∧
      (∀ (text : Text) (pos : Nat),
        (Matcher.regex expression).attemptAt text pos =
          .ok (if literal <+: text.drop pos then .success literal else .failure)) ∧
      (expression.matchesEmpty = true ↔ literal = []) := by
  refine ⟨⟨escape literal, {}, textNode literal⟩, ?_, ?_, ?_⟩
  · rw [constant, Proposal.ofPattern, Matcher.ofPattern, compile_escape]
    rfl
  · intro text pos
    rw [Matcher.attemptAt, resultAt, matchAt_textNode]
    simp only [Int.toNat_natCast, Place.rest_ofOffset]
    by_cases stands : literal <+: text.drop pos
    · simp only [if_pos stands]
    · simp only [if_neg stands]
  · rw [matchesEmpty, matchAt_textNode]
    change (if literal <+: [] then some literal else none).isSome = true ↔ _
    rw [Option.isSome_ite, List.prefix_nil]

end Standard

end Lexwork
