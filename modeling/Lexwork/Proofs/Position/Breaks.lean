import Mathlib.Data.List.DropRight
import Lexwork.Proofs.Position.Lines

/-!
# Counting line breaks piece by piece

Whoever has the whole text counts its line breaks from left to right and knows what
stands behind the last one.  A tracker has to open a line at a carriage return, before
it knows whether a line feed follows, and the two may come in different pieces with empty
ones between them.  Behind the pieces it has counted just what the whole text holds.
-/

namespace Lexwork

namespace Text

def isBreak (c : Char) : Bool :=
  c == '\r' || c == '\n'

/-- The number of line breaks of a text; a carriage return and its line feed are one. -/
def lineBreaks : Text → Nat
  | [] => 0
  | '\r' :: '\n' :: rest => lineBreaks rest + 1
  | c :: rest => lineBreaks rest + if isBreak c then 1 else 0

/-- The characters of a text behind its last line break. -/
def lastLine (text : Text) : Text :=
  text.rtakeWhile fun c => !isBreak c

theorem length_lines (text : Text) : text.lines.length = text.lineBreaks + 1 := by
  fun_induction lines text with
  | case1 => rfl
  | case2 rest ih => rw [lineBreaks, List.length_cons, ih]
  | case3 c rest apart breaks ih =>
      have isBreak : isBreak c = true := by simpa [isBreak] using breaks
      rw [lineBreaks, List.length_cons, ih, if_pos isBreak]
      exact apart
  | case4 c rest apart solid ih =>
      have noBreak : ¬ isBreak c = true := by simpa [isBreak] using solid
      rw [lineBreaks, List.length_modifyHead, ih, if_neg noBreak]
      exact apart

theorem lastLine_concat (text : Text) (c : Char) :
    lastLine (text ++ [c]) = if isBreak c then [] else lastLine text ++ [c] := by
  cases breaks : isBreak c with
  | true =>
      apply List.rtakeWhile_concat_neg
      simp [breaks]
  | false =>
      apply List.rtakeWhile_concat_pos
      simp [breaks]

end Text

namespace Tracker

/-- A line break of any kind leads to the first character, and nothing else does. -/
theorem character_step (tracker : Tracker) (c : Char) :
    (tracker.step (Stroke.ofChar c)).character =
      if Text.isBreak c then 1 else tracker.character + 1 := by
  unfold Stroke.ofChar
  split
  · rename_i isReturn
    rw [isReturn]
    rfl
  split
  · rename_i isFeed
    rw [isFeed]
    rfl
  · rename_i notReturn notFeed
    have solid : ¬ Text.isBreak c = true := by simp [Text.isBreak, notReturn, notFeed]
    rw [if_neg solid]
    rfl

/-- A tracker counts the characters behind the last line break, and one more. -/
theorem character_consume (text : Text) :
    (({} : Tracker).consume text).character = 1 + text.lastLine.length := by
  induction text using List.reverseRecOn with
  | nil => rfl
  | append_singleton text c ih =>
      rw [consume_append, consume_cons, consume_nil, character_step, ih, Text.lastLine_concat]
      split
      · rfl
      · rw [List.length_append]
        rfl

theorem foldl_consume (tracker : Tracker) (pieces : List Text) :
    pieces.foldl consume tracker = tracker.consume pieces.flatten :=
  List.foldl_flatten.symm

theorem consumeValue_str (tracker : Tracker) (text : Text) :
    tracker.consumeValue (.str text) = .ok (tracker.consume text) :=
  congrArg Except.ok List.foldl_map

theorem foldlM_consumeValue (tracker : Tracker) (pieces : List Text) :
    pieces.foldlM (fun reached piece => consumeValue reached (.str piece)) tracker =
      .ok (tracker.consume pieces.flatten) := by
  induction pieces generalizing tracker with
  | nil => rfl
  | cons piece pieces ih =>
      rw [List.foldlM_cons, consumeValue_str, List.flatten_cons, consume_append]
      exact ih (tracker.consume piece)

/--
A fresh tracker that is handed a text in pieces, however it was cut, counts each line
break of the text once and the characters behind the last one, and knows whether the
text ends in a carriage return.
-/
theorem consume_counts_breaks (pieces : List Text) :
    let text : Text := pieces.flatten
    ∃ tracker : Tracker,
      pieces.foldlM (fun reached piece => consumeValue reached (.str piece)) {} = .ok tracker ∧
      pieces.foldl consume {} = tracker ∧
      tracker.line = 1 + text.lineBreaks ∧
      tracker.character = 1 + text.lastLine.length ∧
      (tracker.afterReturn = true ↔ text.getLast? = some '\r') := by
  intro text
  have stands := standsBehind_consume text
  refine ⟨_, foldlM_consumeValue {} pieces, foldl_consume {} pieces, ?_, ?_, stands.afterReturn⟩
  · rw [stands.line, Text.length_lines, Nat.add_comm]
  · exact character_consume text

example : (["a\r".toList, [], "\nb\n".toList, "c".toList].foldl consume {}) = ⟨3, 2, false⟩ := by
  decide

end Tracker

end Lexwork
