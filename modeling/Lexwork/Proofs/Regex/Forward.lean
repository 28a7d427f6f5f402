import Lexwork.Proofs.Regex.Building
import Lexwork.Proofs.Regex.Greedy

/-!
# Expressions that never look back

An anchor for the start of a line or of the text, a word boundary and a look-behind ask
for what stands in front of a place.  Without them an expression sees only the rest of
the text and the groups it has left: two states that have these in common are taken to
states that have them in common, and the offsets, of which only differences matter, stay
the same number apart.  So what is matched at a place is what is matched at the start of
the rest, as if that were a text of its own.
-/

namespace Lexwork

namespace Regex

/-- Whether an anchor asks for what stands in front of a place. -/
def Anchor.looksBack : Anchor → Bool
  | .lineStart => true
  | .lineEnd => false
  | .textStart => true
  | .textEnd => false
  | .boundary => true
  | .notBoundary => true

/-- Whether a lexeme asks for nothing that stands in front of a place. -/
def Lexeme.looksOn : Lexeme → Bool
  | .anchor kind => !kind.looksBack
  | .opening (.behind _) => false
  | _ => true

/-- Whether a pattern, read with the given options, never looks back. -/
def isForwardPattern (flags : Flags) (pattern : Text) : Bool :=
  writtenIn Lexeme.looksOn flags pattern

/-- Two states with the same rest and the same groups, the second a number of characters on. -/
structure State.SeesAs (shift : Nat) (state other : State) : Prop where
  rest : other.place.rest = state.place.rest
  offset : other.place.offset = state.place.offset + shift
  groups : other.groups = state.groups

/-- Two continuations that take states which see the same to such states. -/
def Continuation.AgreesWith (shift : Nat) (k other : Continuation) : Prop :=
  ∀ state state', State.SeesAs shift state state' →
    Option.Rel (State.SeesAs shift) (k state) (other state')

/-- A step that cannot tell states apart which see the same. -/
def LooksOn (step : Step) : Prop :=
  ∀ shift k other, Continuation.AgreesWith shift k other →
    Continuation.AgreesWith shift (step · k) (step · other)

section States

variable {shift : Nat} {state state' next next' : State}

theorem State.SeesAs.advance (sees : State.SeesAs shift state state') (n : Nat) :
    State.SeesAs shift (state.advance n) (state'.advance n) where
  rest := by rw [State.rest_advance, State.rest_advance, sees.rest]
  offset := by
    have moved := Place.offset_advance n state.place
    have moved' := Place.offset_advance n state'.place
    rw [sees.rest, sees.offset] at moved'
    simp only [State.advance]
    omega
  groups := sees.groups

/-- The text of a group lies between two offsets, so it is the same in both. -/
theorem State.SeesAs.leaveGroup (entered : State.SeesAs shift state state')
    (left : State.SeesAs shift next next') (group : Nat) :
    State.SeesAs shift (next.leaveGroup state group) (next'.leaveGroup state' group) where
  rest := left.rest
  offset := left.offset
  groups := by
    have apart : next'.place.offset - state'.place.offset =
        next.place.offset - state.place.offset := by
      rw [left.offset, entered.offset, Nat.add_sub_add_right]
    simp only [State.leaveGroup, apart, entered.rest, left.groups]

theorem State.SeesAs.keepGroups (sees : State.SeesAs shift state state')
    (left : State.SeesAs shift next next') :
    State.SeesAs shift { state with groups := next.groups }
      { state' with groups := next'.groups } :=
  ⟨sees.rest, sees.offset, left.groups⟩

theorem Anchor.holds_of_rest {kind : Anchor} (forward : kind.looksBack = false)
    (multiline : Bool) {place other : Place} (same : other.rest = place.rest) :
    kind.holds multiline other = kind.holds multiline place := by
  cases kind with
  | lineEnd => simp only [Anchor.holds, same]
  | textEnd => simp only [Anchor.holds, same]
  | _ => cases forward

end States

section Results

variable {shift : Nat} {first second : Option State}

theorem orElse_rel {later later' : Unit → Option State}
    (agree : Option.Rel (State.SeesAs shift) first second)
    (behind : Option.Rel (State.SeesAs shift) (later ()) (later' ())) :
    Option.Rel (State.SeesAs shift) (first.orElse later) (second.orElse later') := by
  cases agree with
  | none => exact behind
  | some sees => exact .some sees

theorem prefer_rel (reluctant : Bool) {more stop more' stop' : Unit → Option State}
    (going : Option.Rel (State.SeesAs shift) (more ()) (more' ()))
    (stopping : Option.Rel (State.SeesAs shift) (stop ()) (stop' ())) :
    Option.Rel (State.SeesAs shift) (prefer reluctant more stop)
      (prefer reluctant more' stop') := by
  cases reluctant with
  | true => exact orElse_rel stopping going
  | false => exact orElse_rel going stopping

/-- Results that see the same give the same, as far as that is all that is asked of them. -/
theorem map_eq_of_rel {α : Type} {read read' : State → α}
    (agree : Option.Rel (State.SeesAs shift) first second)
    (same : ∀ state state', State.SeesAs shift state state' → read state = read' state') :
    first.map read = second.map read' := by
  cases agree with
  | none => rfl
  | some sees => exact congrArg some (same _ _ sees)

end Results

/-! ## Steps -/

section Steps

variable {step : Step}

theorem LooksOn.rounds (looksOn : LooksOn step) (count : Nat) : LooksOn (rounds step count) := by
  induction count with
  | zero => exact fun shift k other agree => agree
  | succ count ih => exact fun shift k other agree => looksOn shift _ _ (ih shift k other agree)

/-- A further round that moves on in one text does so in the other. -/
theorem LooksOn.moreRounds (looksOn : LooksOn step) (reluctant : Bool) (limit : Option Nat)
    (fuel : Text) : LooksOn (moreRounds step reluctant limit fuel) := by
  intro shift k other agree
  induction fuel generalizing limit with
  | nil =>
      intro state state' sees
      by_cases full : limit = some 0
      · rw [full]
        simp only [Regex.moreRounds]
        exact agree state state' sees
      · simp only [Regex.moreRounds]
        exact prefer_rel reluctant (looksOn shift k other agree state state' sees)
          (agree state state' sees)
  | cons c fuel ih =>
      intro state state' sees
      by_cases full : limit = some 0
      · rw [full]
        simp only [Regex.moreRounds]
        exact agree state state' sees
      · simp only [Regex.moreRounds]
        refine prefer_rel reluctant (looksOn shift _ _ ?_ state state' sees)
          (agree state state' sees)
        intro next next' reached
        have stays : next'.place.offset = state'.place.offset ↔
            next.place.offset = state.place.offset := by
          rw [reached.offset, sees.offset, Nat.add_right_cancel_iff]
        simp only [stays]
        split
        · exact agree next next' reached
        · exact ih _ next next' reached

end Steps

/-- A reference compares the rest with the text of a group. -/
theorem looksOn_reference (fold : Bool) (group : Nat) :
    LooksOn (Node.reference fold group).run := by
  intro shift k other agree state state' sees
  simp only [Node.run, sees.groups, sees.rest]
  split
  · exact .none
  · split
    · exact agree _ _ (sees.advance _)
    · exact .none

/-- Having looked ahead, both go on from where they stand, or neither does. -/
theorem rel_of_look {shift : Nat} {k other : Continuation} {state state' : State}
    {seen seen' : Option State} {negated : Bool} (agree : Continuation.AgreesWith shift k other)
    (sees : State.SeesAs shift state state') :
    Option.Rel (State.SeesAs shift) seen seen' → Option.Rel (State.SeesAs shift)
      (match seen with
      | some next => if negated then none else k { state with groups := next.groups }
      | none => if negated then k state else none)
      (match seen' with
      | some next => if negated then none else other { state' with groups := next.groups }
      | none => if negated then other state' else none) := by
  intro looked
  cases looked with
  | none =>
      cases negated with
      | true => exact agree state state' sees
      | false => exact .none
  | some left =>
      cases negated with
      | true => exact .none
      | false => exact agree _ _ (sees.keepGroups left)

/-- A node that is built without looking back cannot tell states apart which see the same. -/
theorem Node.BuiltFrom.looksOn {node : Node} (built : node.BuiltFrom Lexeme.looksOn) :
    LooksOn node.run := by
  induction built with
  | empty => exact fun shift k other agree => agree
  | set chars =>
      intro shift k other agree state state' sees
      simp only [Node.run, sees.rest]
      split
      · exact .none
      · split
        · exact agree _ _ (sees.advance 1)
        · exact .none
  | seq _ _ ihFirst ihSecond =>
      exact fun shift k other agree => ihFirst shift _ _ (ihSecond shift k other agree)
  | alt _ _ ihFirst ihSecond =>
      intro shift k other agree state state' sees
      exact orElse_rel (ihFirst shift k other agree state state' sees)
        (ihSecond shift k other agree state state' sees)
  | capture group _ ih =>
      intro shift k other agree state state' sees
      refine ih shift _ _ ?_ state state' sees
      exact fun next next' left => agree _ _ (sees.leaveGroup left group)
  | loop reluctant least most _ ih =>
      intro shift k other agree state state' sees
      refine ih.rounds least shift _ _ ?_ state state' sees
      intro next next' reached
      dsimp only
      rw [reached.rest]
      exact ih.moreRounds _ _ _ shift k other agree next next' reached
  | numbered fold asked => exact looksOn_reference fold _
  | named fold group asked => exact looksOn_reference fold group
  | ahead asked _ ih =>
      intro shift k other agree state state' sees
      have seen := ih shift some some (fun _ _ reached => .some reached) state state' sees
      exact rel_of_look agree sees seen
  | behind width asked _ _ => cases asked
  | anchor multiline asked =>
      intro shift k other agree state state' sees
      have forward := (Bool.not_eq_true' _).mp asked
      simp only [Node.run, Anchor.holds_of_rest forward multiline sees.rest]
      split
      · exact agree state state' sees
      · exact .none

/-- An expression that never looks back matches at a place what it matches in the rest alone. -/
theorem matchAt_start_rest {node : Node} (built : node.BuiltFrom Lexeme.looksOn) (place : Place) :
    node.matchAt (.start place.rest) = node.matchAt place := by
  have sees : State.SeesAs place.offset (.initial (.start place.rest)) (.initial place) :=
    ⟨rfl, (Nat.zero_add _).symm, rfl⟩
  have agree := built.looksOn place.offset some some (fun _ _ reached => .some reached) _ _ sees
  refine map_eq_of_rel agree fun final final' reached => ?_
  have apart : final'.place.offset - place.offset = final.place.offset - 0 := by
    rw [reached.offset, Nat.add_sub_cancel]
    rfl
  rw [apart]
  rfl

end Regex

end Lexwork
