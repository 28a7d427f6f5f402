import Lexwork.Proofs.Lexer.Chain
import Lexwork.Proofs.Position.Lines

/-!
# Where tokens stand

A token carries the line and the character at which its text starts, and so does
the report of unmatched text.  Both are counted while the text is cut, yet they
can be looked up in the lines of the whole text, wherever the cuts fell: the line
with that number shows from that character on exactly what was consumed.
-/

namespace Lexwork

/-- A piece stands on a line of a text from a character on, both counted from one. -/
def Text.Shows (text piece : Text) (line character : Nat) : Prop :=
  0 < line ∧ 0 < character ∧
    ∃ shown, text.lines[line - 1]? = some shown ∧
      shown.slice (character - 1) (character - 1 + piece.length) = piece

/-- A character stands on a line of a text at its place there, both counted from one. -/
def Text.HasAt (text : Text) (c : Char) (line character : Nat) : Prop :=
  0 < line ∧ 0 < character ∧
    ∃ shown, text.lines[line - 1]? = some shown ∧ shown[character - 1]? = some c

namespace Tracker

variable {text piece : Text} {offset : Nat}

/-- The line of the tracker at an offset holds the unbroken piece that stands there. -/
theorem exists_line_atOffset (stands : piece <+: text.drop offset) (unbroken : piece.Unbroken)
    (nonempty : piece ≠ []) :
    ∃ before after, (atOffset text offset).character = before.length + 1 ∧
      0 < (atOffset text offset).line ∧
      text.lines[(atOffset text offset).line - 1]? = some (before ++ (piece ++ after)) := by
  obtain ⟨rest, split⟩ := stands
  have parts : text.take offset ++ (piece ++ rest) = text := by
    rw [split, List.take_append_drop]
  obtain ⟨done, before, after, later, joined, line, character⟩ :=
    (standsBehind_consume (text.take offset)).lines_around unbroken nonempty rest
  rw [parts] at joined
  refine ⟨before, after, character, ?_, ?_⟩
  · rw [atOffset, line]
    exact Nat.succ_pos _
  · rw [atOffset, line, joined]
    simp

theorem shows_atOffset (stands : piece <+: text.drop offset) (unbroken : piece.Unbroken)
    (nonempty : piece ≠ []) :
    text.Shows piece (atOffset text offset).line (atOffset text offset).character := by
  obtain ⟨before, after, character, positive, shown⟩ :=
    exists_line_atOffset stands unbroken nonempty
  refine ⟨positive, by omega, _, shown, ?_⟩
  apply Text.slice_of_prefix
  rw [character, Nat.add_sub_cancel, List.drop_left]
  exact List.prefix_append _ _

/-- A character that breaks no line is found where the tracker at its offset says. -/
theorem hasAt_atOffset {c : Char} (here : text[offset]? = some c) (solid : c ≠ '\r' ∧ c ≠ '\n') :
    text.HasAt c (atOffset text offset).line (atOffset text offset).character := by
  obtain ⟨inside, isHere⟩ := List.getElem?_eq_some_iff.mp here
  have stands : [c] <+: text.drop offset := by
    rw [List.drop_eq_getElem_cons inside, isHere]
    exact ⟨_, rfl⟩
  have unbroken : Text.Unbroken [c] := by
    simpa [Text.Unbroken, eq_comm] using solid
  obtain ⟨before, after, character, positive, shown⟩ :=
    exists_line_atOffset stands unbroken (List.cons_ne_nil _ _)
  refine ⟨positive, by omega, _, shown, ?_⟩
  rw [character, Nat.add_sub_cancel]
  simp

end Tracker

namespace Lexer

variable {definitions : List Definition} {text : Text}

/-- What a link consumed stands at its start, and there is something of it. -/
theorem IsLink.stands {link : Link} (valid : IsLink definitions text link) :
    link.found.consumed <+: text.drop link.start ∧ link.found.consumed ≠ [] := by
  have forward := valid.forward
  have length : (text.slice link.start link.stop).length = link.stop - link.start :=
    Text.length_slice valid.inside
  rw [valid.consumed]
  refine ⟨List.take_prefix _ _, ?_⟩
  intro empty
  rw [empty, List.length_nil] at length
  omega

theorem IsLink.shows {link : Link} (valid : IsLink definitions text link) {token : Token}
    (made : link.token? text = some token) (unbroken : link.found.consumed.Unbroken) :
    text.Shows link.found.consumed token.line token.character := by
  unfold Link.token? at made
  split at made
  · cases made
  · cases made
    exact Tracker.shows_atOffset valid.stands.1 unbroken valid.stands.2

/--
Every token of a text says on which line and from which character on the text
stands that it was made of, if no line breaks inside.  A report of unmatched text
says in the same way where the first unmatched character stands, if it breaks no
line, unless a function of a caller made the report.
-/
theorem tokenize_locates (lexer : Lexer) (text : Text) :
    (∀ tokens, lexer.tokenize (.str text) = .ok tokens →
      ∃ links, Chain lexer.patterns text 0 links text.length ∧ tokens = tokensAlong text links ∧
        ∀ link ∈ links, ∀ token, link.token? text = some token →
          link.found.consumed.Unbroken →
            text.Shows link.found.consumed token.line token.character) ∧
    (∀ place, lexer.tokenize (.str text) = .error (.unmatched place) →
      ∃ links offset, Chain lexer.patterns text 0 links offset ∧ offset < text.length ∧
        ((Declines text offset lexer.patterns ∧
          ∀ c, text[offset]? = some c → c ≠ '\r' ∧ c ≠ '\n' →
            ∃ line character : Nat, place.line = line ∧ place.character = character ∧
              text.HasAt c line character) ∨
          Raises lexer.patterns text offset (.unmatched place))) := by
  by_cases registered : lexer.patterns = []
  · simp [tokenize, registered]
  constructor
  · intro tokens cut
    obtain ⟨links, chain, made⟩ := (tokenize_eq_ok_iff registered).mp cut
    refine ⟨links, chain, made, ?_⟩
    intro link inside token isToken unbroken
    exact (chain.isLink_of_mem inside).shows isToken unbroken
  · intro place failed
    obtain ⟨links, offset, chain, inside, fails⟩ :=
      (tokenize_eq_error_iff registered).mp failed
    refine ⟨links, offset, chain, inside, ?_⟩
    rcases fails_unmatched_iff.mp fails with ⟨declined, rfl⟩ | raises
    · refine .inl ⟨declined, ?_⟩
      intro c here solid
      exact ⟨_, _, rfl, rfl, Tracker.hasAt_atOffset here solid⟩
    · exact .inr raises

/-- The single line break of the text is cut in two. -/
theorem tokenize_locates_blanksAndSingles :
    ∃ tokens links, blanksAndSingles.tokenize (.str ['a', '\r', '\n', 'b']) = .ok tokens ∧
      Chain blanksAndSingles.patterns ['a', '\r', '\n', 'b'] 0 links 4 ∧
      tokens = tokensAlong ['a', '\r', '\n', 'b'] links ∧
      ∀ link ∈ links, ∀ token, link.token? ['a', '\r', '\n', 'b'] = some token →
        link.found.consumed.Unbroken →
          Text.Shows ['a', '\r', '\n', 'b'] link.found.consumed token.line token.character := by
  have returned : blanksAndSingles.tokenize (.str ['a', '\r', '\n', 'b']) =
      .ok [⟨.int 1, ['s'], 1, 1⟩, ⟨.int 1, ['s'], 1, 2⟩, ⟨.int 1, ['s'], 2, 1⟩,
        ⟨.int 1, ['s'], 2, 1⟩] := by cbv
  obtain ⟨links, chain, made, shows⟩ :=
    (tokenize_locates blanksAndSingles ['a', '\r', '\n', 'b']).1 _ returned
  exact ⟨_, links, returned, chain, made, shows⟩

end Lexer

end Lexwork
