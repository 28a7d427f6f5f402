import Lexwork.Fault
import Lexwork.Value.Equality

/-!
# Token cursors

A cursor reads a sequence of items from the front by moving an index; the items
never change.  The items are usually tokens, but a cursor does not insist: an
item without the field that is asked for fails only when it is asked.

The index may be set from outside.  A negative index is before the end and
counts back from it.
-/

namespace Lexwork

/-- Items, the index of the next one, and the debug log with its switch, newest first. -/
structure TokenCursor where
  tokens : List Value
  index : Int := 0
  debug : Bool := false
  log : List Text := []

/-- An action of a parser, which keeps the state of its cursor even if it fails. -/
abbrev Parser (α : Type) := EStateM Fault TokenCursor α

namespace TokenCursor

def itemsOf : Value → Except Fault (List Value)
  | .none => .error (.parsing .noTokens)
  | .list items => .ok items
  | .tuple items => .ok items
  | _ => .error (.parsing .notSequence)

/-- Switches the debug log; the switch has to be a truth value. -/
def setDebug (cursor : TokenCursor) : Value → Except Fault TokenCursor
  | .bool debug => .ok { cursor with debug }
  | _ => .error (.badValue .debugFlag)

def create (tokens debug : Value) : Except Fault TokenCursor :=
  (itemsOf tokens).bind fun items => setDebug { tokens := items } debug

def remaining (cursor : TokenCursor) : Int :=
  cursor.tokens.length - cursor.index

def atEnd (cursor : TokenCursor) : Bool :=
  decide ((cursor.tokens.length : Int) ≤ cursor.index)

def item? (cursor : TokenCursor) : Option Value :=
  if 0 ≤ cursor.index then cursor.tokens[cursor.index.toNat]?
  else if -(cursor.tokens.length : Int) ≤ cursor.index then
    cursor.tokens[(cursor.tokens.length + cursor.index).toNat]?
  else none

def peek (cursor : TokenCursor) : Except Fault Value :=
  if cursor.atEnd then .error (.parsing .nothingToPeek)
  else
    match cursor.item? with
    | some item => .ok item
    | none => .error .outOfRange

def typeOf : Value → Except Fault Value
  | .token _ type _ _ => .ok type
  | _ => .error .missingField

def contentOf : Value → Except Fault Value
  | .token content _ _ _ => .ok content
  | _ => .error .missingField

/-- The line and character of a token or a position. -/
def positionOf : Value → Except Fault Value
  | .token _ _ line character => .ok (.tuple [line, character])
  | .position line character => .ok (.tuple [line, character])
  | _ => .error .missingField

def peekType (cursor : TokenCursor) : Except Fault Value :=
  cursor.peek.bind typeOf

def looksAt (cursor : TokenCursor) (type : Value) : Except Fault Bool :=
  cursor.peekType.map (·.same type)

def position (cursor : TokenCursor) : Except Fault Value :=
  cursor.peek.bind positionOf

/-- Fails unless the index is past the last item. -/
def expectEnd (cursor : TokenCursor) : Except Fault Unit :=
  if cursor.atEnd then .ok ()
  else
    match cursor.peek with
    | .error fault => .error fault
    | .ok item => .error (Unexpected.raise "EOF" item .none .none)

def skip (cursor : TokenCursor) : TokenCursor :=
  { cursor with index := cursor.index + 1 }

/-- Writes a value to the debug log, if that is switched on; a value without a text is lost. -/
def debugLog (cursor : TokenCursor) (message : Value) : TokenCursor :=
  match cursor.debug, message.display? with
  | true, some line => { cursor with log := line :: cursor.log }
  | _, _ => cursor

def next : Parser Value := fun cursor =>
  if cursor.atEnd then .error (.parsing .nothingToTake) cursor
  else
    match cursor.item? with
    | some item => .ok item cursor.skip
    | none => .error .outOfRange cursor

/--
Takes the next token, which has to have the given type.  The type needs a text even
if the log that it is written to is switched off.
-/
def expect (type : Value) : Parser Value := fun cursor =>
  if cursor.atEnd then .error (Unexpected.raise type .none .none .none) cursor
  else
    match cursor.looksAt type with
    | .error fault => .error fault cursor
    | .ok true =>
        match type.display? with
        | none => .error (.badValue .tooLongToWrite) cursor
        | some shown => next (cursor.debugLog (.str ("matched " ++ shown)))
    | .ok false =>
        match cursor.peek with
        | .error fault => .error fault cursor
        | .ok item => .error (Unexpected.raise type item .none .none) cursor

theorem remaining_skip_lt {cursor : TokenCursor} (before : cursor.atEnd = false) :
    cursor.skip.remaining.toNat < cursor.remaining.toNat := by
  simp only [atEnd, decide_eq_false_iff_not, Int.not_le] at before
  simp only [remaining, skip]
  omega

/--
Skips items up to and including the next token of the given type, or to the end.
-/
def skipPast (type : Value) : Parser Unit := fun cursor =>
  if _before : cursor.atEnd = false then
    match cursor.looksAt type with
    | .error fault => .error fault cursor
    | .ok true => .ok () cursor.skip
    | .ok false => skipPast type cursor.skip
  else
    .ok () cursor
termination_by cursor => cursor.remaining.toNat
decreasing_by exact remaining_skip_lt _before

@[simp] theorem remaining_debugLog (cursor : TokenCursor) (message : Value) :
    (cursor.debugLog message).remaining = cursor.remaining := by
  unfold debugLog
  split <;> rfl

theorem remaining_lt_of_next {cursor after : TokenCursor} {item : Value}
    (taken : next cursor = .ok item after) :
    after.remaining.toNat < cursor.remaining.toNat := by
  unfold next at taken
  split at taken
  · cases taken
  · rename_i before
    split at taken
    · cases taken
      exact remaining_skip_lt (by simpa using before)
    · cases taken

theorem remaining_lt_of_expect {cursor after : TokenCursor} {type item : Value}
    (matched : expect type cursor = .ok item after) :
    after.remaining.toNat < cursor.remaining.toNat := by
  unfold expect at matched
  split at matched
  · cases matched
  · split at matched
    · cases matched
    · split at matched
      · cases matched
      · simpa using remaining_lt_of_next matched
    · split at matched <;> cases matched

end TokenCursor

/-! ## Actions that never move back -/

namespace Parser

variable {α β : Type}

def cursorAfter : EStateM.Result Fault TokenCursor α → TokenCursor
  | .ok _ after => after
  | .error _ after => after

/-- Looks at the cursor without changing it. -/
def read (look : TokenCursor → Except Fault α) : Parser α := fun cursor =>
  match look cursor with
  | .ok value => .ok value cursor
  | .error fault => .error fault cursor

/-- Takes the next token, which has to have the given type, for its content. -/
def expectContent (type : Value) : Parser Value := do
  let token ← TokenCursor.expect type
  read fun _ => TokenCursor.contentOf token

/-- An action that never moves back. -/
def Forward (action : Parser α) : Prop :=
  ∀ cursor, (cursorAfter (action cursor)).remaining.toNat ≤ cursor.remaining.toNat

theorem Forward.ok_le {action : Parser α} (forward : Forward action)
    {cursor after : TokenCursor} {value : α} (ran : action cursor = .ok value after) :
    after.remaining.toNat ≤ cursor.remaining.toNat := by
  have step := forward cursor
  rw [ran] at step
  exact step

theorem Forward.error_le {action : Parser α} (forward : Forward action)
    {cursor after : TokenCursor} {fault : Fault} (ran : action cursor = .error fault after) :
    after.remaining.toNat ≤ cursor.remaining.toNat := by
  have step := forward cursor
  rw [ran] at step
  exact step

theorem forward_pure (value : α) : Forward (pure value) :=
  fun _ => Nat.le_refl _

theorem forward_read (look : TokenCursor → Except Fault α) : Forward (read look) := by
  intro cursor
  unfold read
  split <;> exact Nat.le_refl _

theorem forward_bind {first : Parser α} {second : α → Parser β} (forward : Forward first)
    (forwards : ∀ value, Forward (second value)) : Forward (first >>= second) := by
  intro cursor
  simp only [bind, EStateM.bind]
  cases ran : first cursor with
  | ok value after => exact Nat.le_trans (forwards value after) (forward.ok_le ran)
  | error fault after => exact forward.error_le ran

theorem forward_next : Forward TokenCursor.next := by
  intro cursor
  unfold TokenCursor.next
  split
  · exact Nat.le_refl _
  · rename_i before
    split
    · exact Nat.le_of_lt (TokenCursor.remaining_skip_lt (by simpa using before))
    · exact Nat.le_refl _

theorem forward_expect (type : Value) : Forward (TokenCursor.expect type) := by
  intro cursor
  unfold TokenCursor.expect
  split
  · exact Nat.le_refl _
  · split
    · exact Nat.le_refl _
    · split
      · exact Nat.le_refl _
      · simpa using forward_next (cursor.debugLog _)
    · split <;> exact Nat.le_refl _

theorem forward_expectContent (type : Value) : Forward (expectContent type) :=
  forward_bind (forward_expect type) fun _ => forward_read _

/-- An action that leaves fewer items whenever it succeeds. -/
def Advancing (action : Parser α) : Prop :=
  ∀ cursor value after, action cursor = .ok value after →
    after.remaining.toNat < cursor.remaining.toNat

theorem advancing_bind {first : Parser α} {second : α → Parser β} (advancing : Advancing first)
    (forwards : ∀ value, Forward (second value)) : Advancing (first >>= second) := by
  intro cursor value after ran
  simp only [bind, EStateM.bind] at ran
  split at ran
  · rename_i found behind taken
    exact Nat.lt_of_le_of_lt ((forwards found).ok_le ran) (advancing _ _ _ taken)
  · cases ran

theorem advancing_expect (type : Value) : Advancing (TokenCursor.expect type) :=
  fun _ _ _ taken => TokenCursor.remaining_lt_of_expect taken

theorem advancing_expectContent (type : Value) : Advancing (expectContent type) :=
  advancing_bind (advancing_expect type) fun _ => forward_read _

theorem advancing_skipPast {type : Value} {cursor after : TokenCursor}
    (before : cursor.atEnd = false)
    (ran : TokenCursor.skipPast type cursor = .ok () after) :
    after.remaining.toNat < cursor.remaining.toNat := by
  fun_induction TokenCursor.skipPast type cursor with
  | case1 => cases ran
  | case2 cursor inside =>
      cases ran
      exact TokenCursor.remaining_skip_lt inside
  | case3 cursor inside _ ih =>
      have shorter := TokenCursor.remaining_skip_lt inside
      cases ended : cursor.skip.atEnd with
      | false => exact Nat.lt_trans (ih ended ran) shorter
      | true =>
          rw [TokenCursor.skipPast] at ran
          simp only [ended, Bool.true_eq_false, dite_false] at ran
          cases ran
          exact shorter
  | case4 cursor ended => exact absurd before ended

end Parser

end Lexwork
