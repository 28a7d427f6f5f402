import Lexwork.Fault

/-!
# Lines and characters

A tracker counts lines and characters, both from one.  A carriage return, a
line feed, and a carriage return followed by a line feed are one line break
each, even if the text is handed over in pieces.
-/

namespace Lexwork

/-- What one character does to a position. -/
inductive Stroke
  | carriageReturn
  | lineFeed
  | other
  deriving DecidableEq, Repr

def Stroke.ofChar (c : Char) : Stroke :=
  if c = '\r' then .carriageReturn else if c = '\n' then .lineFeed else .other

def Stroke.ofValue : Value → Stroke
  | .str [c] => Stroke.ofChar c
  | _ => .other

/-- The position reached, and whether the last character was a carriage return. -/
structure Tracker where
  line : Nat := 1
  character : Nat := 1
  afterReturn : Bool := false
  deriving DecidableEq, Repr

namespace Tracker

/-- Moves past one stroke; a line feed right after a carriage return opens no line. -/
def step (tracker : Tracker) : Stroke → Tracker
  | .carriageReturn => ⟨tracker.line + 1, 1, true⟩
  | .lineFeed =>
      ⟨if tracker.afterReturn then tracker.line else tracker.line + 1, 1, false⟩
  | .other => ⟨tracker.line, tracker.character + 1, false⟩

def consume (tracker : Tracker) (text : Text) : Tracker :=
  text.foldl (fun reached c => reached.step (Stroke.ofChar c)) tracker

def consumeValue (tracker : Tracker) (value : Value) : Except Fault Tracker :=
  match value.elements? with
  | some elements => .ok (elements.foldl (fun reached e => reached.step (Stroke.ofValue e)) tracker)
  | none => .error .typeMismatch

def position (tracker : Tracker) : Value :=
  .position (.int tracker.line) (.int tracker.character)

@[simp] theorem consume_nil (tracker : Tracker) : tracker.consume [] = tracker :=
  rfl

@[simp] theorem consume_cons (tracker : Tracker) (c : Char) (text : Text) :
    tracker.consume (c :: text) = (tracker.step (Stroke.ofChar c)).consume text :=
  rfl

@[simp] theorem consume_append (tracker : Tracker) (first second : Text) :
    tracker.consume (first ++ second) = (tracker.consume first).consume second := by
  simp [consume]

end Tracker

end Lexwork
