import Lexwork.Proofs.Regex.Greedy

/-!
# How far a match moves on

A node hands its continuation only states that lie further on, within the text, or at
the same place; and it stays at a place only if its shape allows that.  A node that
asks for nothing but characters can do so everywhere if it can at the end of the empty
text: every part that may be left out is left out there, and every other fails.  So
whether such a node ever matches the empty text can be read off its shape, and can as
well be tried out on the empty text.
-/

namespace Lexwork

namespace Regex

/-- Whether the shape of a node allows it to match without moving on. -/
def Node.nullable : Node → Bool
  | .empty => true
  | .set _ => false
  | .seq first second => first.nullable && second.nullable
  | .alt first second => first.nullable || second.nullable
  | .capture _ body => body.nullable
  | .reference _ _ => true
  | .loop _ least _ body => least == 0 || body.nullable
  | .ahead _ _ => true
  | .behind _ _ _ => true
  | .anchor _ _ => true

/-- A node of sets in sequence, in branches, in groups and in loops: it asks for characters only. -/
inductive Node.IsPlain : Node → Prop
  | empty : IsPlain .empty
  | set (chars : CharSet) : IsPlain (.set chars)
  | seq {first second : Node} (head : IsPlain first) (tail : IsPlain second) :
      IsPlain (.seq first second)
  | alt {first second : Node} (left : IsPlain first) (right : IsPlain second) :
      IsPlain (.alt first second)
  | capture (group : Nat) {body : Node} (inner : IsPlain body) : IsPlain (.capture group body)
  | loop (reluctant : Bool) (least : Nat) (most : Option Nat) {body : Node}
      (inner : IsPlain body) : IsPlain (.loop reluctant least most body)

/-- A state stands a number of characters further on than another, within the text. -/
def State.Leads (state : State) (n : Nat) (next : State) : Prop :=
  n ≤ state.place.rest.length ∧ next.place = state.place.advance n

theorem State.leads_of_place_eq {state next : State} (same : next.place = state.place) :
    state.Leads 0 next := by
  refine ⟨Nat.zero_le _, ?_⟩
  rw [same, Place.advance_zero]

theorem State.Leads.trans {state next last : State} {m n : Nat} (first : state.Leads m next)
    (second : next.Leads n last) : state.Leads (m + n) last := by
  obtain ⟨inside, moved⟩ := first
  obtain ⟨within, further⟩ := second
  rw [moved, Place.rest_advance, List.length_drop] at within
  refine ⟨by omega, ?_⟩
  rw [further, moved, Place.advance_advance]

/--
A step goes on only from states that lie no further back, within the text, and from
the place where it started only if it may stay there.
-/
def MovesOn (stays : Prop) (step : Step) : Prop :=
  ∀ state k final, step state k = some final →
    ∃ n next, state.Leads n next ∧ k next = some final ∧ (n = 0 → stays)

section Steps

variable {stays : Prop} {step : Step}

theorem orElse_eq_some {first : Option State} {second : Unit → Option State} {final : State}
    (found : first.orElse second = some final) : first = some final ∨ second () = some final := by
  cases first with
  | none => exact .inr found
  | some other => exact .inl found

theorem prefer_eq_some {reluctant : Bool} {more stop : Unit → Option State} {final : State}
    (found : prefer reluctant more stop = some final) :
    more () = some final ∨ stop () = some final := by
  unfold prefer at found
  split at found
  · exact (orElse_eq_some found).symm
  · exact orElse_eq_some found

/-- Required rounds stay at a place only if there are none or a round may stay there. -/
theorem MovesOn.rounds (moves : MovesOn stays step) (count : Nat) :
    MovesOn (count = 0 ∨ stays) (rounds step count) := by
  induction count with
  | zero =>
      intro state k final found
      exact ⟨0, state, State.leads_of_place_eq rfl, found, fun _ => .inl rfl⟩
  | succ count ih =>
      intro state k final found
      obtain ⟨m, next, first, later, mayStay⟩ := moves state _ final found
      obtain ⟨n, last, second, accepted, _⟩ := ih next k final later
      refine ⟨m + n, last, first.trans second, accepted, fun none => .inr (mayStay ?_)⟩
      omega

/-- Further rounds may always be left out. -/
theorem MovesOn.moreRounds (moves : MovesOn stays step) (reluctant : Bool) (limit : Option Nat)
    (fuel : Text) : MovesOn True (moreRounds step reluctant limit fuel) := by
  intro state k final found
  fun_induction Regex.moreRounds step reluctant limit fuel state k with
  | case1 fuel state k => exact ⟨0, state, State.leads_of_place_eq rfl, found, fun _ => trivial⟩
  | case2 limit state k more =>
      rcases prefer_eq_some found with again | stop
      · obtain ⟨n, next, leads, accepted, _⟩ := moves state k final again
        exact ⟨n, next, leads, accepted, fun _ => trivial⟩
      · exact ⟨0, state, State.leads_of_place_eq rfl, stop, fun _ => trivial⟩
  | case3 limit c fuel state k more ih =>
      rcases prefer_eq_some found with again | stop
      · obtain ⟨m, next, first, later, _⟩ := moves state _ final again
        split at later
        · exact ⟨m, next, first, later, fun _ => trivial⟩
        · obtain ⟨n, last, second, accepted, _⟩ := ih next later
          exact ⟨m + n, last, first.trans second, accepted, fun _ => trivial⟩
      · exact ⟨0, state, State.leads_of_place_eq rfl, stop, fun _ => trivial⟩

end Steps

/-- A reference moves past a piece that the text goes on with. -/
theorem length_le_of_startsWith {fold : Bool} {text piece : Text}
    (starts : startsWith fold text piece = true) : piece.length ≤ text.length := by
  induction text generalizing piece with
  | nil =>
      cases piece with
      | nil => exact Nat.le_refl _
      | cons d piece => cases starts
  | cons c text ih =>
      cases piece with
      | nil => exact Nat.zero_le _
      | cons d piece =>
          simp only [startsWith, Bool.and_eq_true] at starts
          exact Nat.succ_le_succ (ih starts.2)

/-- Looking around goes on from the place where it started. -/
theorem exists_of_look {state final : State} {k : Continuation} {seen : Option State}
    {negated : Bool}
    (found : (match seen with
      | some next => if negated then none else k { state with groups := next.groups }
      | none => if negated then k state else none) = some final) :
    ∃ next : State, next.place = state.place ∧ k next = some final := by
  split at found
  · rename_i next
    split at found
    · cases found
    · exact ⟨{ state with groups := next.groups }, rfl, found⟩
  · split at found
    · exact ⟨state, rfl, found⟩
    · cases found

/-- A node moves on within the text, and stays at a place only if its shape allows that. -/
theorem movesOn_run (node : Node) : MovesOn (node.nullable = true) node.run := by
  induction node with
  | empty =>
      intro state k final found
      exact ⟨0, state, State.leads_of_place_eq rfl, found, fun _ => rfl⟩
  | set chars =>
      intro state k final found
      rw [Node.run] at found
      split at found
      · cases found
      · rename_i c rest stands
        split at found
        · refine ⟨1, state.advance 1, ⟨?_, rfl⟩, found, fun none => absurd none Nat.one_ne_zero⟩
          rw [stands]
          exact Nat.succ_le_succ (Nat.zero_le _)
        · cases found
  | seq first second ihFirst ihSecond =>
      intro state k final found
      obtain ⟨m, next, head, later, firstStays⟩ := ihFirst state _ final found
      obtain ⟨n, last, tail, accepted, secondStays⟩ := ihSecond next k final later
      refine ⟨m + n, last, head.trans tail, accepted, fun none => ?_⟩
      rw [Node.nullable, firstStays (by omega), secondStays (by omega)]
      rfl
  | alt first second ihFirst ihSecond =>
      intro state k final found
      rcases orElse_eq_some found with left | right
      · obtain ⟨n, next, leads, accepted, mayStay⟩ := ihFirst state k final left
        refine ⟨n, next, leads, accepted, fun none => ?_⟩
        rw [Node.nullable, mayStay none, Bool.true_or]
      · obtain ⟨n, next, leads, accepted, mayStay⟩ := ihSecond state k final right
        refine ⟨n, next, leads, accepted, fun none => ?_⟩
        rw [Node.nullable, mayStay none, Bool.or_true]
  | capture group body ih =>
      intro state k final found
      obtain ⟨n, next, leads, accepted, mayStay⟩ := ih state _ final found
      exact ⟨n, next.leaveGroup state group, leads, accepted, mayStay⟩
  | reference fold group =>
      intro state k final found
      rw [Node.run] at found
      split at found
      · cases found
      · rename_i piece known
        split at found
        · rename_i starts
          exact ⟨piece.length, state.advance piece.length, ⟨length_le_of_startsWith starts, rfl⟩,
            found, fun _ => rfl⟩
        · cases found
  | loop reluctant least most body ih =>
      intro state k final found
      rw [run_loop] at found
      obtain ⟨m, next, required, later, mayStay⟩ := ih.rounds least state _ final found
      obtain ⟨n, last, further, accepted, _⟩ := ih.moreRounds _ _ _ next k final later
      refine ⟨m + n, last, required.trans further, accepted, fun none => ?_⟩
      simpa [Node.nullable] using mayStay (by omega)
  | ahead negated body _ =>
      intro state k final found
      obtain ⟨next, same, accepted⟩ := exists_of_look found
      exact ⟨0, next, State.leads_of_place_eq same, accepted, fun _ => rfl⟩
  | behind negated width body _ =>
      intro state k final found
      obtain ⟨next, same, accepted⟩ := exists_of_look found
      exact ⟨0, next, State.leads_of_place_eq same, accepted, fun _ => rfl⟩
  | anchor multiline kind =>
      intro state k final found
      rw [Node.run] at found
      split at found
      · exact ⟨0, state, State.leads_of_place_eq rfl, found, fun _ => rfl⟩
      · cases found

/-- A match is a start of the text at its place, and empty only if the shape allows that. -/
theorem exists_take_of_matchAt {node : Node} {place : Place} {piece : Text}
    (matched : node.matchAt place = some piece) :
    ∃ n ≤ place.rest.length, piece = place.rest.take n ∧ (n = 0 → node.nullable = true) := by
  rw [Node.matchAt, Option.map_eq_some_iff] at matched
  obtain ⟨final, ran, rfl⟩ := matched
  obtain ⟨n, _, ⟨inside, moved⟩, ⟨⟩, mayStay⟩ := movesOn_run node _ _ _ ran
  have passed : final.place.offset - place.offset = n := by
    have counted := Place.offset_advance n place
    have short : min n place.rest.length = n := Nat.min_eq_left inside
    rw [moved]
    change (place.advance n).offset - place.offset = n
    omega
  exact ⟨n, inside, by rw [passed], mayStay⟩

/-- Only a node whose shape allows it ever matches the empty text. -/
theorem nullable_of_matchAt {node : Node} {place : Place} (matched : node.matchAt place = some []) :
    node.nullable = true := by
  obtain ⟨n, inside, taken, mayStay⟩ := exists_take_of_matchAt matched
  refine mayStay ?_
  have length := congrArg List.length taken
  rw [List.length_nil, List.length_take] at length
  omega

/-! ## The end of a text -/

/-- At the end of a text, a step leads on to a continuation that accepts the place. -/
def LeadsOnAtEnd (step : Step) : Prop :=
  ∀ state k, state.place.rest = [] → (∀ next : State, next.place = state.place → (k next).isSome) →
    (step state k).isSome

section AtEnd

variable {step : Step} {state : State} {k : Continuation}

theorem isSome_prefer {reluctant : Bool} {more stop : Unit → Option State}
    (stopped : (stop ()).isSome) : (prefer reluctant more stop).isSome := by
  unfold prefer
  split
  · obtain ⟨final, found⟩ := Option.isSome_iff_exists.mp stopped
    rw [found]
    rfl
  · cases more () with
    | none => exact stopped
    | some other => rfl

theorem isSome_moreRounds (reluctant : Bool) (limit : Option Nat) (fuel : Text)
    (accepted : (k state).isSome) : (moreRounds step reluctant limit fuel state k).isSome := by
  unfold moreRounds
  split
  · exact accepted
  · exact isSome_prefer accepted
  · exact isSome_prefer accepted

theorem LeadsOnAtEnd.rounds (leads : LeadsOnAtEnd step) (count : Nat) :
    LeadsOnAtEnd (rounds step count) := by
  induction count with
  | zero => exact fun state k _ accepts => accepts state rfl
  | succ count ih =>
      intro state k ended accepts
      refine leads state _ ended fun next same => ?_
      exact ih next k (same ▸ ended) fun last there => accepts last (there.trans same)

end AtEnd

/-- A plain node whose shape allows it matches at the end of a text. -/
theorem Node.IsPlain.leadsOnAtEnd {node : Node} (plain : node.IsPlain)
    (nullable : node.nullable = true) : LeadsOnAtEnd node.run := by
  induction plain with
  | empty => exact fun state k _ accepts => accepts state rfl
  | set chars => cases nullable
  | seq _ _ ihFirst ihSecond =>
      obtain ⟨first, second⟩ := Bool.and_eq_true_iff.mp nullable
      intro state k ended accepts
      refine ihFirst first state _ ended fun next same => ?_
      exact ihSecond second next k (same ▸ ended) fun last there => accepts last (there.trans same)
  | @alt left right _ _ ihLeft ihRight =>
      intro state k ended accepts
      rw [Node.run]
      rcases Bool.or_eq_true_iff.mp nullable with first | second
      · obtain ⟨final, found⟩ := Option.isSome_iff_exists.mp (ihLeft first state k ended accepts)
        rw [found]
        rfl
      · cases left.run state k with
        | none => exact ihRight second state k ended accepts
        | some final => rfl
  | capture group _ ih =>
      intro state k ended accepts
      exact ih nullable state _ ended fun next same => accepts (next.leaveGroup state group) same
  | @loop reluctant least most body _ ih =>
      intro state k ended accepts
      rw [run_loop]
      have further : ∀ next : State, next.place = state.place →
          (moreRounds body.run reluctant (most.map (· - least)) next.place.rest next k).isSome :=
        fun next same => isSome_moreRounds _ _ _ (accepts next same)
      rcases Bool.or_eq_true_iff.mp nullable with none | inner
      · obtain rfl := eq_of_beq none
        exact further state rfl
      · exact (ih inner).rounds least state _ ended further

theorem matchAt_start_nil {node : Node} (matched : (node.matchAt (.start [])).isSome = true) :
    node.matchAt (.start []) = some [] := by
  obtain ⟨piece, found⟩ := Option.isSome_iff_exists.mp matched
  obtain ⟨n, _, rfl, _⟩ := exists_take_of_matchAt found
  exact found.trans (congrArg some List.take_nil)

/-- A plain node that matches the empty text somewhere does so in the empty text. -/
theorem Node.IsPlain.isSome_matchAt_nil {node : Node} (plain : node.IsPlain) {place : Place}
    (matched : node.matchAt place = some []) : (node.matchAt (.start [])).isSome = true := by
  have leads := plain.leadsOnAtEnd (nullable_of_matchAt matched)
  rw [Node.matchAt, Option.isSome_map]
  exact leads _ _ rfl fun _ _ => rfl

end Regex

end Lexwork
