import Lexwork.Proofs.Cursor.Reading
import Mathlib.Order.Bounds.Basic

/-!
# Skipping from any index

The index of a cursor may be set from outside, also to a negative number, which counts
back from the end.  Skipping from there moves the index up one by one, through the
negative indices to the end of the items and then through all of them again.  It comes
to rest behind the first token of the wanted type, gets stuck at the first item that is
no token, or else runs off the end.
-/

namespace Lexwork

namespace TokenCursor

/-- The item that a signed index reads; a negative one counts back from the end. -/
def itemAt (tokens : List Value) (j : Int) : Option Value :=
  tokens[(if j < 0 then tokens.length + j else j).toNat]?

/-- What skipping does not pass over: a token of the wanted type, or what is no token. -/
def IsStop (type item : Value) : Prop :=
  isOf type item = true ∨ ¬ item.IsToken

/-- The indices from the cursor's on, up to the end, at which skipping does not go on. -/
def stops (cursor : TokenCursor) (type : Value) : Set Int :=
  {j | cursor.index ≤ j ∧ j < cursor.tokens.length ∧
    ∃ item, itemAt cursor.tokens j = some item ∧ IsStop type item}

/-- How skipping ends, and where, by the least index at which it does not go on. -/
inductive Skips (type : Value) (cursor : TokenCursor) :
    EStateM.Result Fault TokenCursor Unit → Prop
  | toEnd (free : cursor.stops type = ∅) :
      Skips type cursor (.ok () { cursor with index := cursor.tokens.length })
  | past {j : Int} {item : Value} (first : IsLeast (cursor.stops type) j)
      (stands : itemAt cursor.tokens j = some item) (wanted : isOf type item = true) :
      Skips type cursor (.ok () { cursor with index := j + 1 })
  | stuck {j : Int} {item : Value} (first : IsLeast (cursor.stops type) j)
      (stands : itemAt cursor.tokens j = some item) (other : ¬ item.IsToken) :
      Skips type cursor (.error .missingField { cursor with index := j })

variable {cursor : TokenCursor} {type item : Value}

theorem isToken_of_isOf (wanted : isOf type item = true) : item.IsToken := by
  unfold isOf at wanted
  split at wanted
  · exact ⟨_, _, _, _, rfl⟩
  · cases wanted

/-- The first item at which skipping does not go on is a token, if it can be seen as one. -/
theorem isToken_of_first {j k : Int} {other : Value} (first : IsLeast (cursor.stops type) j)
    (stands : itemAt cursor.tokens j = some item) (wanted : isOf type item = true)
    (second : IsLeast (cursor.stops type) k) (there : itemAt cursor.tokens k = some other) :
    other.IsToken := by
  obtain rfl := first.unique second
  obtain rfl := Option.some.inj (stands.symm.trans there)
  exact isToken_of_isOf wanted

theorem Skips.unique {left right : EStateM.Result Fault TokenCursor Unit}
    (ends : Skips type cursor left) (others : Skips type cursor right) : left = right := by
  cases ends with
  | toEnd free =>
      cases others with
      | toEnd _ => rfl
      | past first _ _ => exact absurd first.1 (free ▸ Set.notMem_empty _)
      | stuck first _ _ => exact absurd first.1 (free ▸ Set.notMem_empty _)
  | past first stands wanted =>
      cases others with
      | toEnd free => exact absurd first.1 (free ▸ Set.notMem_empty _)
      | past other _ _ => rw [first.unique other]
      | stuck other there noToken =>
          exact absurd (isToken_of_first first stands wanted other there) noToken
  | stuck first stands noToken =>
      cases others with
      | toEnd free => exact absurd first.1 (free ▸ Set.notMem_empty _)
      | past other there wanted =>
          exact absurd (isToken_of_first other there wanted first stands) noToken
      | stuck other _ _ => rw [first.unique other]

theorem item?_eq_itemAt (inside : -(cursor.tokens.length : Int) ≤ cursor.index) :
    cursor.item? = itemAt cursor.tokens cursor.index := by
  unfold item? itemAt
  by_cases negative : cursor.index < 0
  · rw [if_neg (by omega), if_pos inside, if_pos negative]
  · rw [if_pos (by omega), if_neg negative]

theorem exists_itemAt (inside : -(cursor.tokens.length : Int) ≤ cursor.index)
    (before : cursor.atEnd = false) :
    cursor.index < cursor.tokens.length ∧
      ∃ item, itemAt cursor.tokens cursor.index = some item := by
  have short : cursor.index < cursor.tokens.length := by simpa [atEnd] using before
  have bounded : (if cursor.index < 0 then cursor.tokens.length + cursor.index
      else cursor.index).toNat < cursor.tokens.length := by
    split <;> omega
  exact ⟨short, _, List.getElem?_eq_getElem bounded⟩

/-- The next item has the type that it is asked for, or not, or is no token. -/
theorem looksAt_of_itemAt (type : Value) (inside : -(cursor.tokens.length : Int) ≤ cursor.index)
    (before : cursor.atEnd = false) (stands : itemAt cursor.tokens cursor.index = some item) :
    (item.IsToken ∧ cursor.looksAt type = .ok (isOf type item)) ∨
      (¬ item.IsToken ∧ cursor.looksAt type = .error .missingField) := by
  have peeked : cursor.peek = .ok item := by
    rw [peek, before, item?_eq_itemAt inside, stands]
    rfl
  rw [looksAt, peekType, peeked]
  cases item with
  | token content found line character => exact .inl ⟨⟨_, _, _, _, rfl⟩, rfl⟩
  | _ => exact .inr ⟨by rintro ⟨_, _, _, _, ⟨⟩⟩, rfl⟩

/-- Where skipping does not go on is the first such index of a cursor that stands there. -/
theorem isLeast_stops (before : cursor.index < cursor.tokens.length)
    (stands : itemAt cursor.tokens cursor.index = some item) (stop : IsStop type item) :
    IsLeast (cursor.stops type) cursor.index :=
  ⟨⟨le_refl _, before, item, stands, stop⟩, fun _ member => member.1⟩

/-- An item that is passed over is no place to stop at. -/
theorem stops_skip (stands : itemAt cursor.tokens cursor.index = some item)
    (passes : ¬ IsStop type item) : cursor.skip.stops type = cursor.stops type := by
  ext j
  constructor
  · rintro ⟨above, short, stop⟩
    exact ⟨(Int.lt_succ _).le.trans above, short, stop⟩
  · rintro ⟨above, short, other, there, stop⟩
    refine ⟨Int.lt_iff_add_one_le.mp (lt_of_le_of_ne above ?_), short, other, there, stop⟩
    rintro rfl
    obtain rfl := Option.some.inj (stands.symm.trans there)
    exact passes stop

/-- Skipping that goes on behind an item ends as it does from there. -/
theorem Skips.of_skip (same : cursor.skip.stops type = cursor.stops type)
    {ending : EStateM.Result Fault TokenCursor Unit} (ends : Skips type cursor.skip ending) :
    Skips type cursor ending := by
  cases ends with
  | toEnd free => exact .toEnd (same ▸ free)
  | past first stands wanted => exact .past (same ▸ first) stands wanted
  | stuck first stands other => exact .stuck (same ▸ first) stands other

/-- Skipping from an index within the bounds ends as the first stop says. -/
theorem skips_skipPast (inside : -(cursor.tokens.length : Int) ≤ cursor.index)
    (within : cursor.index ≤ cursor.tokens.length) :
    Skips type cursor (skipPast type cursor) := by
  -- The induction follows the index up to the end; only the first item decides each round.
  fun_induction skipPast type cursor with
  | case1 cursor before fault looked =>
      obtain ⟨short, item, stands⟩ := exists_itemAt inside before
      rcases looksAt_of_itemAt type inside before stands with ⟨_, seen⟩ | ⟨other, seen⟩
      · cases looked.symm.trans seen
      · cases looked.symm.trans seen
        exact .stuck (isLeast_stops short stands (.inr other)) stands other
  | case2 cursor before looked =>
      obtain ⟨short, item, stands⟩ := exists_itemAt inside before
      rcases looksAt_of_itemAt type inside before stands with ⟨_, seen⟩ | ⟨_, seen⟩
      · have wanted : isOf type item = true := (Except.ok.inj (looked.symm.trans seen)).symm
        exact .past (isLeast_stops short stands (.inl wanted)) stands wanted
      · cases looked.symm.trans seen
  | case3 cursor before looked ih =>
      obtain ⟨short, item, stands⟩ := exists_itemAt inside before
      rcases looksAt_of_itemAt type inside before stands with ⟨token, seen⟩ | ⟨_, seen⟩
      · have unwanted : isOf type item = false := (Except.ok.inj (looked.symm.trans seen)).symm
        have passes : ¬ IsStop type item := by simp [IsStop, unwanted, token]
        exact (ih (inside.trans (Int.lt_succ _).le) short).of_skip (stops_skip stands passes)
      · cases looked.symm.trans seen
  | case4 cursor ended =>
      have last : cursor.index = cursor.tokens.length := by
        have reached : (cursor.tokens.length : Int) ≤ cursor.index := by simpa [atEnd] using ended
        exact le_antisymm within reached
      have free : cursor.stops type = ∅ := by
        ext j
        refine iff_of_false ?_ (Set.notMem_empty j)
        rintro ⟨above, short, _⟩
        omega
      have stays : { cursor with index := (cursor.tokens.length : Int) } = cursor := by rw [← last]
      simpa only [stays] using Skips.toEnd free

/--
From the end on, skipping does nothing; before the bounds, it fails and does nothing.
From any other index it ends at the first one, read as a signed index, whose item is a
token of the wanted type or no token: behind it in the first case, and with a failure
right there in the second.  If there is none, it ends at the end.
-/
theorem skipPast_from_any_index (cursor : TokenCursor) (type : Value) :
    (cursor.tokens.length ≤ cursor.index → skipPast type cursor = .ok () cursor) ∧
    (cursor.index < -cursor.tokens.length → skipPast type cursor = .error .outOfRange cursor) ∧
    (-cursor.tokens.length ≤ cursor.index → cursor.index < cursor.tokens.length →
      (cursor.stops type = ∅ →
        skipPast type cursor = .ok () { cursor with index := cursor.tokens.length }) ∧
      ∀ j, IsLeast (cursor.stops type) j → ∃ item, itemAt cursor.tokens j = some item ∧
        (isOf type item = true ∧ skipPast type cursor = .ok () { cursor with index := j + 1 } ∨
          ¬ item.IsToken ∧
            skipPast type cursor = .error .missingField { cursor with index := j })) := by
  refine ⟨?_, ?_, ?_⟩
  · intro beyond
    have ended : cursor.atEnd = true := by simpa [atEnd] using beyond
    rw [skipPast, ended]
    rfl
  · intro outside
    have before : cursor.atEnd = false := by
      simp only [atEnd, decide_eq_false_iff_not]
      omega
    have missing : cursor.item? = none := by
      rw [item?, if_neg (by omega), if_neg (by omega)]
    have looked : cursor.looksAt type = .error .outOfRange := by
      rw [looksAt, peekType, peek, before, missing]
      rfl
    rw [skipPast, dif_pos before, looked]
  · intro inside before
    have ends : Skips type cursor (skipPast type cursor) := skips_skipPast inside before.le
    refine ⟨fun free => ends.unique (.toEnd free), fun j first => ?_⟩
    obtain ⟨_, _, item, stands, wanted | other⟩ := first.1
    · exact ⟨item, stands, .inl ⟨wanted, ends.unique (.past first stands wanted)⟩⟩
    · exact ⟨item, stands, .inr ⟨other, ends.unique (.stuck first stands other)⟩⟩

/-- The scan passes the comma at the end and goes on at the start. -/
theorem skipPast_from_any_index_wrapping :
    let cursor : TokenCursor :=
      { tokens := [.token (.int 1) "integer" .none .none, .token "," "comma" .none .none]
        index := -1 }
    IsLeast (cursor.stops "integer") 0 ∧
      skipPast "integer" cursor = .ok () { cursor with index := 1 } := by
  intro cursor
  have first : IsLeast (cursor.stops "integer") 0 := by
    refine ⟨⟨by decide, by decide, _, rfl, .inl rfl⟩, ?_⟩
    rintro j ⟨above, _, item, stands, stop⟩
    by_contra below
    obtain rfl : j = -1 := by
      have lower : -1 ≤ j := above
      omega
    obtain rfl := Option.some.inj stands
    rcases stop with wanted | other
    · cases wanted
    · exact other ⟨_, _, _, _, rfl⟩
  obtain ⟨item, stands, ⟨_, skipped⟩ | ⟨other, _⟩⟩ :=
    ((skipPast_from_any_index cursor "integer").2.2 (by decide) (by decide)).2 0 first
  · exact ⟨first, skipped⟩
  · obtain rfl := Option.some.inj stands
    exact absurd ⟨_, _, _, _, rfl⟩ other

end TokenCursor

end Lexwork
