import Lexwork.Text.Basic

/-!
# Places in a text

A place cuts a text in two: the characters before it, nearest first, and the
rest.  It knows its offset, so that moving and comparing places costs nothing
beyond the characters passed.  Moving on stops at the end of the text; moving
back fails at its start.
-/

namespace Lexwork

/-- A place between two characters of a text. -/
structure Place where
  before : Text
  rest : Text
  offset : Nat
  deriving DecidableEq, Repr

namespace Place

def start (text : Text) : Place :=
  ⟨[], text, 0⟩

def advance : Nat → Place → Place
  | n + 1, ⟨before, c :: rest, offset⟩ => advance n ⟨c :: before, rest, offset + 1⟩
  | _, place => place

/-- The place a number of characters back, if there are so many. -/
def back? : Nat → Place → Option Place
  | 0, place => some place
  | n + 1, ⟨c :: before, rest, offset⟩ => back? n ⟨before, c :: rest, offset - 1⟩
  | _ + 1, ⟨[], _, _⟩ => none

/-- The place at an offset of a text; offsets past the end give the end. -/
def ofOffset (text : Text) (offset : Nat) : Place :=
  (start text).advance offset

@[simp] theorem advance_zero (place : Place) : place.advance 0 = place := by
  rcases place with ⟨before, rest, offset⟩
  cases rest with
  | nil => rfl
  | cons c rest => rfl

@[simp] theorem advance_succ_cons (n : Nat) (before rest : Text) (c : Char) (offset : Nat) :
    advance (n + 1) ⟨before, c :: rest, offset⟩ = advance n ⟨c :: before, rest, offset + 1⟩ :=
  rfl

@[simp] theorem advance_nil (n : Nat) (before : Text) (offset : Nat) :
    advance n ⟨before, [], offset⟩ = ⟨before, [], offset⟩ := by
  cases n <;> rfl

@[simp] theorem rest_advance (n : Nat) (place : Place) :
    (place.advance n).rest = place.rest.drop n := by
  rcases place with ⟨before, rest, offset⟩
  induction rest generalizing n before offset with
  | nil => simp
  | cons c rest ih =>
      cases n with
      | zero => simp
      | succ n => simp [ih]

theorem advance_advance (first second : Nat) (place : Place) :
    (place.advance first).advance second = place.advance (first + second) := by
  rcases place with ⟨before, rest, offset⟩
  induction rest generalizing first before offset with
  | nil => simp
  | cons c rest ih =>
      cases first with
      | zero => simp
      | succ first =>
          rw [Nat.succ_add]
          exact ih first (c :: before) (offset + 1)

/-- Moving on counts the characters passed, of which there are no more than are left. -/
theorem offset_advance (n : Nat) (place : Place) :
    (place.advance n).offset = place.offset + min n place.rest.length := by
  rcases place with ⟨before, rest, offset⟩
  induction rest generalizing n before offset with
  | nil => simp
  | cons c rest ih =>
      cases n with
      | zero => simp
      | succ n =>
          rw [advance_succ_cons, ih, List.length_cons]
          dsimp only
          omega

@[simp] theorem rest_ofOffset (text : Text) (offset : Nat) :
    (ofOffset text offset).rest = text.drop offset := by
  simp [ofOffset, start]

end Place

end Lexwork
