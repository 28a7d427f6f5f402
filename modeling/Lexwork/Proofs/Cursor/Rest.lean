import Lexwork.Proofs.Value.Rendering
import Lexwork.TokenCursor

/-!
# The rest before a cursor

A cursor whose index was never set from outside stands between the items that
it has passed and the rest.  Looking at it reads the head of the rest; taking an
item drops the head.  Nothing else about a cursor matters to a parser.
-/

namespace Lexwork

namespace TokenCursor

/-- A cursor has passed a first part of its items and has the rest before it. -/
def HasRest (cursor : TokenCursor) (rest : List Value) : Prop :=
  ∃ passed, cursor.tokens = passed ++ rest ∧ cursor.index = (passed.length : Int)

variable {cursor : TokenCursor} {item : Value} {rest : List Value}

theorem hasRest_start (tokens : List Value) (debug : Bool) :
    HasRest { tokens := tokens, debug := debug } tokens :=
  ⟨[], rfl, rfl⟩

theorem HasRest.atEnd_nil (stands : cursor.HasRest []) : cursor.atEnd = true := by
  obtain ⟨passed, whole, index⟩ := stands
  simp [atEnd, whole, index]

theorem HasRest.atEnd_cons (stands : cursor.HasRest (item :: rest)) : cursor.atEnd = false := by
  obtain ⟨passed, whole, index⟩ := stands
  simp only [atEnd, whole, index, List.length_append, List.length_cons, decide_eq_false_iff_not]
  omega

theorem HasRest.item? (stands : cursor.HasRest (item :: rest)) : cursor.item? = some item := by
  obtain ⟨passed, whole, index⟩ := stands
  have forward : 0 ≤ cursor.index := by omega
  rw [TokenCursor.item?, if_pos forward, whole, index]
  simp

theorem HasRest.peek (stands : cursor.HasRest (item :: rest)) : cursor.peek = .ok item := by
  rw [TokenCursor.peek, stands.atEnd_cons, stands.item?]
  rfl

theorem HasRest.peek_nil (stands : cursor.HasRest []) :
    cursor.peek = .error (.parsing .nothingToPeek) := by
  rw [TokenCursor.peek, stands.atEnd_nil]
  rfl

theorem HasRest.remaining (stands : cursor.HasRest rest) : cursor.remaining = rest.length := by
  obtain ⟨passed, whole, index⟩ := stands
  rw [TokenCursor.remaining, whole, index, List.length_append]
  omega

theorem HasRest.skip (stands : cursor.HasRest (item :: rest)) : cursor.skip.HasRest rest := by
  obtain ⟨passed, whole, index⟩ := stands
  refine ⟨passed ++ [item], ?_, ?_⟩
  · rw [TokenCursor.skip, whole, List.append_assoc]
    rfl
  · simp [TokenCursor.skip, index]

theorem HasRest.debugLog (stands : cursor.HasRest rest) (message : Value) :
    (cursor.debugLog message).HasRest rest := by
  unfold TokenCursor.debugLog
  split <;> exact stands

theorem HasRest.next (stands : cursor.HasRest (item :: rest)) :
    next cursor = .ok item cursor.skip := by
  rw [TokenCursor.next, stands.atEnd_cons, stands.item?]
  rfl

theorem HasRest.expect_nil (stands : cursor.HasRest []) (type : Value) :
    expect type cursor = .error (Unexpected.raise type .none .none .none) cursor := by
  rw [expect, stands.atEnd_nil]
  rfl

theorem HasRest.skipPast_nil (stands : cursor.HasRest []) (wanted : Value) :
    skipPast wanted cursor = .ok () cursor := by
  rw [skipPast, stands.atEnd_nil]
  rfl

section Tokens

variable {content type line character : Value}

theorem HasRest.peekType (stands : cursor.HasRest (.token content type line character :: rest)) :
    cursor.peekType = .ok type := by
  rw [TokenCursor.peekType, stands.peek]
  rfl

theorem HasRest.looksAt (stands : cursor.HasRest (.token content type line character :: rest))
    (wanted : Value) : cursor.looksAt wanted = .ok (type.same wanted) := by
  rw [TokenCursor.looksAt, stands.peekType]
  rfl

theorem HasRest.expect_same
    (stands : cursor.HasRest (.token content type line character :: rest)) {wanted : Value}
    (same : type.same wanted = true) :
    expect wanted cursor =
      match wanted.display? with
      | some shown =>
          .ok (.token content type line character)
            (cursor.debugLog (.str ("matched " ++ shown))).skip
      | none => .error (.badValue .tooLongToWrite) cursor := by
  rw [expect, stands.atEnd_cons, stands.looksAt, same]
  cases wanted.display? with
  | some shown => exact (stands.debugLog _).next
  | none => rfl

theorem HasRest.expect_str
    (stands : cursor.HasRest (.token content type line character :: rest)) {wanted : Text}
    (same : type.same (.str wanted) = true) :
    ∃ after, expect (.str wanted) cursor = .ok (.token content type line character) after ∧
      after.HasRest rest :=
  ⟨_, stands.expect_same same, (stands.debugLog _).skip⟩

theorem HasRest.expect_other
    (stands : cursor.HasRest (.token content type line character :: rest)) {wanted : Value}
    (other : type.same wanted = false) :
    expect wanted cursor =
      .error (Unexpected.raise wanted (.token content type line character) .none .none)
        cursor := by
  rw [expect, stands.atEnd_cons, stands.looksAt, other, stands.peek]
  rfl

theorem HasRest.skipPast_same
    (stands : cursor.HasRest (.token content type line character :: rest)) {wanted : Value}
    (same : type.same wanted = true) : skipPast wanted cursor = .ok () cursor.skip := by
  rw [skipPast, dif_pos stands.atEnd_cons, stands.looksAt, same]

theorem HasRest.skipPast_other
    (stands : cursor.HasRest (.token content type line character :: rest)) {wanted : Value}
    (other : type.same wanted = false) :
    skipPast wanted cursor = skipPast wanted cursor.skip := by
  conv => lhs; rw [skipPast, dif_pos stands.atEnd_cons, stands.looksAt, other]

end Tokens

theorem HasRest.expectEnd_nil (stands : cursor.HasRest []) : cursor.expectEnd = .ok () := by
  rw [expectEnd, stands.atEnd_nil]
  rfl

theorem HasRest.expectEnd_cons (stands : cursor.HasRest (item :: rest)) :
    cursor.expectEnd = .error (Unexpected.raise "EOF" item .none .none) := by
  rw [expectEnd, stands.atEnd_cons, stands.peek]
  rfl

theorem mem_of_item? {cursor : TokenCursor} {item : Value} (found : cursor.item? = some item) :
    item ∈ cursor.tokens := by
  unfold TokenCursor.item? at found
  split at found
  · exact List.mem_of_getElem? found
  · split at found
    · exact List.mem_of_getElem? found
    · cases found

/-- Taking an item hands over one of the items, which stay as they are. -/
theorem mem_of_next {cursor after : TokenCursor} {item : Value}
    (taken : next cursor = .ok item after) :
    item ∈ cursor.tokens ∧ after.tokens = cursor.tokens := by
  unfold TokenCursor.next at taken
  split at taken
  · cases taken
  · split at taken
    · rename_i found
      cases taken
      exact ⟨mem_of_item? found, rfl⟩
    · cases taken

@[simp] theorem tokens_debugLog (cursor : TokenCursor) (message : Value) :
    (cursor.debugLog message).tokens = cursor.tokens := by
  unfold TokenCursor.debugLog
  split <;> rfl

theorem mem_of_expect {cursor after : TokenCursor} {type item : Value}
    (taken : expect type cursor = .ok item after) :
    item ∈ cursor.tokens ∧ after.tokens = cursor.tokens := by
  unfold TokenCursor.expect at taken
  split at taken
  · cases taken
  · split at taken
    · cases taken
    · split at taken
      · cases taken
      · simpa using mem_of_next taken
    · split at taken <;> cases taken

end TokenCursor

namespace Unexpected

theorem wording?_none {expected seen : Value} (wanted : expected.HasText) (found : seen.HasText) :
    ∃ words, wording? expected seen .none = some words := by
  obtain ⟨shown, displayed⟩ := wanted
  obtain ⟨other, displayed'⟩ := found
  simp [wording?, displayed, displayed']

theorem raise_token {expected content type : Value} (wanted : expected.HasText)
    (readable : content.HasText) (typed : type.HasText) (line character : Value) :
    ∃ report : Unexpected,
      raise expected (.token content type line character) .none .none = .unexpected report ∧
        report.token = .token content type line character := by
  obtain ⟨words, worded⟩ := wording?_none wanted typed
  obtain ⟨shown, displayed⟩ := readable
  simp only [raise, Unexpected.report, displayed, worded]
  exact ⟨_, rfl, rfl⟩

theorem isParsing_raise {expected content type : Value} (wanted : expected.HasText)
    (readable : content.HasText) (typed : type.HasText) (line character : Value) :
    (raise expected (.token content type line character) .none .none).isParsing = true := by
  obtain ⟨report, raised, _⟩ := raise_token wanted readable typed line character
  rw [raised]
  rfl

theorem raise_end {expected : Value} (wanted : expected.HasText) :
    ∃ report : Unexpected, raise expected .none .none .none = .unexpected report ∧
      report.token = .none ∧ report.found = "EOF" := by
  obtain ⟨words, worded⟩ := wording?_none wanted (Value.hasText_str "EOF")
  simp only [raise, Unexpected.report, Value.isNone, if_true, worded]
  exact ⟨_, rfl, rfl, rfl⟩

end Unexpected

end Lexwork
