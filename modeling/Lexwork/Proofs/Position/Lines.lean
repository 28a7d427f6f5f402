import Lexwork.Position

/-!
# The lines of a text

A tracker sees a text in pieces and remembers three things.  Splitting sees the
whole text at once.  Behind every text the two agree: the tracker counts the
lines that the text has so far, and the characters on the last of them.  A text
that is cut in two has the lines of its parts, where the last line of the first
part goes on in the first line of the second, unless the cut parts a carriage
return from its line feed.
-/

namespace Lexwork

namespace Text

/-- The lines of a text: it is split at every line break, which belongs to no line. -/
def lines : Text → List Text
  | [] => [[]]
  | '\r' :: '\n' :: rest => [] :: lines rest
  | c :: rest =>
      if c = '\r' ∨ c = '\n' then [] :: lines rest
      else (lines rest).modifyHead (c :: ·)

example : lines "a\r\nb\n\rc".toList = ["a".toList, "b".toList, [], "c".toList] := by decide

/-- A text without a line break. -/
def Unbroken (text : Text) : Prop :=
  '\r' ∉ text ∧ '\n' ∉ text

theorem unbroken_cons_iff {c : Char} {text : Text} :
    Unbroken (c :: text) ↔ (c ≠ '\r' ∧ c ≠ '\n') ∧ Unbroken text := by
  simp only [Unbroken, List.mem_cons, not_or, ne_comm (a := c)]
  exact and_and_and_comm

/-- A cut between two texts that parts a carriage return from its line feed. -/
def PartsBreak (before rest : Text) : Prop :=
  before.getLast? = some '\r' ∧ rest.head? = some '\n'

theorem lines_lineFeed (rest : Text) : lines ('\n' :: rest) = [] :: lines rest := by
  simp [lines]

theorem lines_carriageReturn {rest : Text} (alone : rest.head? ≠ some '\n') :
    lines ('\r' :: rest) = [] :: lines rest := by
  cases rest with
  | nil => rfl
  | cons c rest =>
      have other : c ≠ '\n' := by simpa using alone
      rw [lines]
      · simp
      · rintro tail - same
        exact other (List.cons.inj same).1

theorem lines_cons {c : Char} (solid : c ≠ '\r' ∧ c ≠ '\n') {rest first : Text}
    {later : List Text} (behind : lines rest = first :: later) :
    lines (c :: rest) = (c :: first) :: later := by
  rw [lines]
  · simp [solid.1, solid.2, behind]
  · rintro tail same -
    exact solid.1 same

theorem exists_lines_eq_cons (text : Text) : ∃ first later, lines text = first :: later := by
  fun_induction lines text with
  | case1 => exact ⟨[], [], rfl⟩
  | case2 rest => exact ⟨[], lines rest, rfl⟩
  | case3 c rest => exact ⟨[], lines rest, rfl⟩
  | case4 c rest _ _ ih =>
      obtain ⟨first, later, behind⟩ := ih
      exact ⟨c :: first, later, by simp [behind]⟩

theorem lines_unbroken_append {piece : Text} (unbroken : piece.Unbroken) {rest first : Text}
    {later : List Text} (behind : lines rest = first :: later) :
    lines (piece ++ rest) = (piece ++ first) :: later := by
  induction piece with
  | nil => exact behind
  | cons c piece ih =>
      obtain ⟨solid, inner⟩ := unbroken_cons_iff.mp unbroken
      exact lines_cons solid (ih inner)

/-- A cut behind more text parts a break only if the same cut behind the end of it does. -/
theorem PartsBreak.cons {before rest : Text} (parts : PartsBreak before rest) (c : Char) :
    PartsBreak (c :: before) rest := by
  refine ⟨?_, parts.2⟩
  rw [List.getLast?_cons, parts.1]
  rfl

/-- The last line of a first part goes on in the first line of the second. -/
theorem lines_append {before rest first : Text} {later : List Text}
    (whole : ¬ PartsBreak before rest) (behind : lines rest = first :: later) :
    ∃ done last, lines before = done ++ [last] ∧
      lines (before ++ rest) = done ++ (last ++ first) :: later := by
  fun_induction lines before with
  | case1 => exact ⟨[], [], rfl, behind⟩
  | case2 before ih =>
      obtain ⟨done, last, split, joined⟩ :=
        ih fun parts => whole ((parts.cons '\n').cons '\r')
      refine ⟨[] :: done, last, by rw [split]; rfl, ?_⟩
      simp only [List.cons_append, lines, joined]
  | case3 c before apart breaks ih =>
      obtain ⟨done, last, split, joined⟩ := ih fun parts => whole (parts.cons c)
      refine ⟨[] :: done, last, by rw [split]; rfl, ?_⟩
      rcases breaks with rfl | rfl
      · -- No line feed follows: not in the first part, nor, if that ends here, in the second.
        have alone : (before ++ rest).head? ≠ some '\n' := by
          cases before with
          | nil => exact fun next => whole ⟨rfl, next⟩
          | cons c before =>
              intro next
              cases next
              exact apart before rfl rfl
        rw [List.cons_append, lines_carriageReturn alone, joined]
        rfl
      · rw [List.cons_append, lines_lineFeed, joined]
        rfl
  | case4 c before apart solid ih =>
      obtain ⟨done, last, split, joined⟩ := ih fun parts => whole (parts.cons c)
      have kept : c ≠ '\r' ∧ c ≠ '\n' := not_or.mp solid
      rw [List.cons_append]
      cases done with
      | nil =>
          refine ⟨[], c :: last, by rw [split]; rfl, ?_⟩
          exact lines_cons kept joined
      | cons line done =>
          refine ⟨(c :: line) :: done, last, by rw [split]; rfl, ?_⟩
          exact lines_cons kept joined

/-- A line feed that completes a line break adds no line to the empty one behind it. -/
theorem lines_append_lineFeed {text : Text} (returned : text.getLast? = some '\r') :
    ∃ done, lines text = done ++ [[]] ∧ lines (text ++ ['\n']) = done ++ [[]] := by
  obtain ⟨before, rfl⟩ := List.getLast?_eq_some_iff.mp returned
  have whole : ∀ rest, ¬ PartsBreak before ('\r' :: rest) := by
    rintro rest ⟨_, next⟩
    cases next
  have half : lines ['\r'] = [] :: [[]] := rfl
  have complete : lines ['\r', '\n'] = [] :: [[]] := rfl
  -- The same lines stand before the break, whether it is complete or not.
  obtain ⟨done, last, split, joined⟩ := lines_append (whole []) half
  obtain ⟨done', last', split', joined'⟩ := lines_append (whole ['\n']) complete
  obtain ⟨rfl, same⟩ := List.append_inj' (split.symm.trans split') rfl
  obtain rfl := List.singleton_inj.mp same
  refine ⟨done ++ [last], ?_, ?_⟩
  · simpa using joined
  · simpa using joined'

end Text

/-! ## What a tracker counts -/

/--
A tracker stands behind a text: it counts the lines of the text and, on the last
of them, the characters and one more, and knows whether the text ends in a
carriage return.
-/
structure Tracker.StandsBehind (tracker : Tracker) (text : Text) : Prop where
  line : tracker.line = text.lines.length
  character : ∀ last ∈ text.lines.getLast?, tracker.character = last.length + 1
  afterReturn : tracker.afterReturn = true ↔ text.getLast? = some '\r'

namespace Tracker

variable {tracker : Tracker} {text : Text}

theorem standsBehind_start : StandsBehind {} [] :=
  ⟨rfl, by simp [Text.lines], by simp⟩

theorem StandsBehind.newLine {c : Char} (stands : tracker.StandsBehind text)
    (whole : ¬ Text.PartsBreak text [c]) (alone : Text.lines [c] = [[], []]) (returned : Bool)
    (isReturn : returned = true ↔ c = '\r') :
    StandsBehind ⟨tracker.line + 1, 1, returned⟩ (text ++ [c]) := by
  obtain ⟨done, last, split, joined⟩ := Text.lines_append whole alone
  have line := stands.line
  refine ⟨?_, ?_, ?_⟩
  · simp [joined, line, split]
  · simp [joined]
  · simp [isReturn]

/-- A line feed that completes a line break stays on the empty line behind it. -/
theorem StandsBehind.completeBreak (stands : tracker.StandsBehind text)
    (returned : text.getLast? = some '\r') :
    StandsBehind ⟨tracker.line, 1, false⟩ (text ++ ['\n']) := by
  obtain ⟨done, split, joined⟩ := Text.lines_append_lineFeed returned
  have line := stands.line
  refine ⟨?_, ?_, ?_⟩
  · simp [joined, line, split]
  · simp [joined]
  · simp

theorem StandsBehind.sameLine {c : Char} (stands : tracker.StandsBehind text)
    (solid : c ≠ '\r' ∧ c ≠ '\n') :
    StandsBehind ⟨tracker.line, tracker.character + 1, false⟩ (text ++ [c]) := by
  have whole : ¬ Text.PartsBreak text [c] := fun parts => solid.2 (by simpa using parts.2)
  have alone : Text.lines [c] = [c] :: [] := Text.lines_cons solid rfl
  obtain ⟨done, last, split, joined⟩ := Text.lines_append whole alone
  have line := stands.line
  have character := stands.character last (by simp [split])
  refine ⟨?_, ?_, ?_⟩
  · simp [joined, line, split]
  · simp [joined, character]
  · simp [solid.1]

/-- Behind one more character of the text, a tracker stands there. -/
theorem StandsBehind.step (stands : tracker.StandsBehind text) (c : Char) :
    (tracker.step (Stroke.ofChar c)).StandsBehind (text ++ [c]) := by
  unfold Stroke.ofChar
  split
  · rename_i isReturn
    subst isReturn
    exact stands.newLine (by rintro ⟨_, ⟨⟩⟩) rfl true (by simp)
  · rename_i notReturn
    split
    · rename_i isFeed
      subst isFeed
      cases returned : tracker.afterReturn with
      | true =>
          have completed := stands.completeBreak (stands.afterReturn.mp returned)
          simpa [Tracker.step, returned] using completed
      | false =>
          have whole : ¬ Text.PartsBreak text ['\n'] := fun parts => by
            simp [stands.afterReturn.mpr parts.1] at returned
          have opened := stands.newLine whole rfl false (by simp)
          simpa [Tracker.step, returned] using opened
    · rename_i notFeed
      exact stands.sameLine ⟨notReturn, notFeed⟩

theorem StandsBehind.consume (stands : tracker.StandsBehind text) (piece : Text) :
    (tracker.consume piece).StandsBehind (text ++ piece) := by
  induction piece generalizing tracker text with
  | nil => simpa using stands
  | cons c piece ih => simpa using ih (stands.step c)

/-- Behind a text without a line break, a tracker is that many characters further on its line. -/
theorem consume_unbroken (tracker : Tracker) {piece : Text} (unbroken : piece.Unbroken) :
    (tracker.consume piece).line = tracker.line ∧
      (tracker.consume piece).character = tracker.character + piece.length := by
  induction piece generalizing tracker with
  | nil => exact ⟨rfl, rfl⟩
  | cons c piece ih =>
      obtain ⟨⟨notReturn, notFeed⟩, inner⟩ := Text.unbroken_cons_iff.mp unbroken
      have stroke : Stroke.ofChar c = .other := by
        rw [Stroke.ofChar, if_neg notReturn, if_neg notFeed]
      obtain ⟨line, character⟩ := ih (tracker.step (Stroke.ofChar c)) inner
      rw [consume_cons, line, character, stroke, List.length_cons]
      exact ⟨rfl, Nat.add_right_comm ..⟩

theorem standsBehind_consume (text : Text) : (({} : Tracker).consume text).StandsBehind text :=
  standsBehind_start.consume text

/--
A piece without a line break is found in the whole text where a tracker stands
before it: on the tracker's line, from the tracker's character on.
-/
theorem StandsBehind.lines_around (stands : tracker.StandsBehind text) {piece : Text}
    (unbroken : piece.Unbroken) (nonempty : piece ≠ []) (rest : Text) :
    ∃ done before after later,
      (text ++ (piece ++ rest)).lines = done ++ (before ++ (piece ++ after)) :: later ∧
        tracker.line = done.length + 1 ∧ tracker.character = before.length + 1 := by
  have whole : ¬ Text.PartsBreak text (piece ++ rest) := by
    rintro ⟨_, next⟩
    cases piece with
    | nil => exact nonempty rfl
    | cons c piece =>
        cases next
        exact unbroken.2 (List.mem_cons_self ..)
  obtain ⟨first, later, behind⟩ := Text.exists_lines_eq_cons rest
  have withPiece := Text.lines_unbroken_append unbroken behind
  obtain ⟨done, last, split, joined⟩ := Text.lines_append whole withPiece
  have line := stands.line
  refine ⟨done, last, first, later, joined, ?_, ?_⟩
  · simp [line, split]
  · exact stands.character last (by simp [split])

end Tracker

end Lexwork
