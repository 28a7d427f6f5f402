import Lexwork.Regex.Matcher

/-!
# Greedy matching of character sets

A greedy loop over a set first takes every character that the set accepts, and
backs up only if what follows refuses that.  So a loop that nothing can make back
up takes exactly the longest run of accepted characters.
-/

namespace Lexwork

theorem Text.takeWhile_eq_nil_iff {text : Text} {p : Char → Bool} :
    text.takeWhile p = [] ↔ ∀ c ∈ text.head?, p c = false := by
  cases text with
  | nil => simp
  | cons c rest => simp [List.takeWhile_cons]

namespace Regex

theorem State.advance_zero (state : State) : state.advance 0 = state :=
  congrArg (State.mk · state.groups) (Place.advance_zero state.place)

theorem State.rest_advance (state : State) (n : Nat) :
    (state.advance n).place.rest = state.place.rest.drop n :=
  Place.rest_advance n state.place

theorem State.advance_advance (state : State) (first second : Nat) :
    (state.advance first).advance second = state.advance (first + second) :=
  congrArg (State.mk · state.groups) (Place.advance_advance first second state.place)

/-- A node that moves on by a number of characters matches just these. -/
theorem matchAt_of_run {node : Node} {place : Place} {n : Nat}
    (ran : node.run (.initial place) some = some ((State.initial place).advance n)) :
    node.matchAt place = some (place.rest.take n) := by
  have passed : (place.advance n).offset - place.offset = min n place.rest.length := by
    rw [Place.offset_advance]
    omega
  have taken : place.rest.take (min n place.rest.length) = place.rest.take n := by
    rw [List.take_eq_take_iff, Nat.min_assoc, Nat.min_self]
  rw [Node.matchAt, ran]
  change some (place.rest.take ((place.advance n).offset - place.offset)) = _
  rw [passed, taken]

theorem matchAt_of_run_none {node : Node} {place : Place}
    (ran : node.run (.initial place) some = none) : node.matchAt place = none := by
  rw [Node.matchAt, ran]
  rfl

section Sets

variable {chars : CharSet} {state final : State} {k : Continuation} {c : Char} {rest : Text}

theorem run_set_accepted (stands : state.place.rest = c :: rest)
    (accepted : chars.accepts c = true) :
    (Node.set chars).run state k = k (state.advance 1) := by
  simp only [Node.run, stands, accepted, if_true]

theorem run_set_refused (refused : ∀ c ∈ state.place.rest.head?, chars.accepts c = false) :
    (Node.set chars).run state k = none := by
  cases stands : state.place.rest with
  | nil => simp only [Node.run, stands]
  | cons c rest =>
      have here : chars.accepts c = false := refused c (by rw [stands]; rfl)
      simp only [Node.run, stands, here, Bool.false_eq_true, if_false]

/-! ## Loops over sets -/

theorem run_loop (reluctant : Bool) (least : Nat) (most : Option Nat) (body : Node) :
    (Node.loop reluctant least most body).run state k =
      rounds body.run least state fun next =>
        moreRounds body.run reluctant (most.map (· - least)) next.place.rest next k := by
  rw [Node.run]

/-- A round over an accepted character is tried first, and given up if it does not lead on. -/
theorem moreRounds_set_accepted {limit : Option Nat} (more : limit ≠ some 0)
    (stands : state.place.rest = c :: rest) (accepted : chars.accepts c = true) :
    moreRounds (Node.set chars).run false limit state.place.rest state k =
      (moreRounds (Node.set chars).run false (limit.map (· - 1)) (state.advance 1).place.rest
        (state.advance 1) k).orElse fun _ => k state := by
  rcases state with ⟨⟨before, text, offset⟩, groups⟩
  subst stands
  have moved : offset + 1 ≠ offset := Nat.succ_ne_self offset
  rw [moreRounds]
  · simp only [prefer, Bool.false_eq_true, if_false]
    rw [run_set_accepted rfl accepted]
    exact congrArg (Option.orElse · _) (if_neg moved)
  · exact more

/-- Where no further character is accepted, the loop is done. -/
theorem moreRounds_set_refused (limit : Option Nat)
    (refused : ∀ c ∈ state.place.rest.head?, chars.accepts c = false) :
    moreRounds (Node.set chars).run false limit state.place.rest state k = k state := by
  by_cases full : limit = some 0
  · rw [full, moreRounds]
  · cases stands : state.place.rest with
    | nil =>
        rw [moreRounds]
        · simp only [prefer, run_set_refused refused]
          rfl
        · exact full
    | cons c rest =>
        rw [moreRounds]
        · simp only [prefer, run_set_refused refused]
          rfl
        · exact full

/--
A greedy loop takes the longest run of accepted characters if that leads on, or if
no shorter one does.
-/
theorem moreRounds_set
    (settled : ∀ n < (state.place.rest.takeWhile chars.accepts).length,
      k (state.advance n) = none ∨
        (k (state.advance (state.place.rest.takeWhile chars.accepts).length)).isSome) :
    moreRounds (Node.set chars).run false none state.place.rest state k =
      k (state.advance (state.place.rest.takeWhile chars.accepts).length) := by
  -- The induction is on the text left: each round takes a character of it.
  generalize stands : state.place.rest = text at settled
  induction text generalizing state with
  | nil =>
      have refused : ∀ c ∈ state.place.rest.head?, chars.accepts c = false := by
        rw [stands]
        exact fun _ inside => nomatch inside
      rw [← stands, moreRounds_set_refused none refused, stands, List.takeWhile_nil,
        List.length_nil, State.advance_zero]
  | cons c rest ih =>
      rw [← stands]
      cases accepted : chars.accepts c with
      | true =>
          have behind : (state.advance 1).place.rest = rest := by
            rw [State.rest_advance, stands, List.drop_one, List.tail_cons]
          have further (n : Nat) : (state.advance 1).advance n = state.advance (n + 1) := by
            rw [State.advance_advance, Nat.add_comm]
          rw [List.takeWhile_cons_of_pos accepted, List.length_cons] at settled
          have later : moreRounds (Node.set chars).run false none rest (state.advance 1) k =
              k (state.advance ((rest.takeWhile chars.accepts).length + 1)) := by
            refine (ih behind fun n short => ?_).trans (congrArg k (further _))
            rw [further, further]
            exact settled (n + 1) (Nat.succ_lt_succ short)
          rw [moreRounds_set_accepted (by simp) stands accepted, behind, Option.map_none, later,
            stands, List.takeWhile_cons_of_pos accepted, List.length_cons]
          -- Stopping at once is no further possibility, or is never tried.
          rcases settled 0 (Nat.succ_pos _) with refused | led
          · rw [State.advance_zero] at refused
            rw [refused]
            cases k (state.advance ((rest.takeWhile chars.accepts).length + 1)) with
            | none => rfl
            | some final => rfl
          · obtain ⟨final, found⟩ := Option.isSome_iff_exists.mp led
            rw [found]
            rfl
      | false =>
          have refused : ∀ c ∈ state.place.rest.head?, chars.accepts c = false := by
            rw [stands]
            rintro d ⟨⟩
            exact accepted
          rw [moreRounds_set_refused none refused, stands,
            List.takeWhile_cons_of_neg (Bool.eq_false_iff.mp accepted), List.length_nil,
            State.advance_zero]

/-- One or more rounds take the longest run of accepted characters, which is not empty. -/
theorem run_someOf (taken : state.place.rest.takeWhile chars.accepts ≠ [])
    (led : k (state.advance (state.place.rest.takeWhile chars.accepts).length) = some final) :
    (Node.loop false 1 none (.set chars)).run state k = some final := by
  cases stands : state.place.rest with
  | nil =>
      rw [stands] at taken
      exact absurd rfl taken
  | cons c rest =>
      rw [stands] at taken led
      cases accepted : chars.accepts c with
      | false =>
          exact absurd (List.takeWhile_cons_of_neg (Bool.eq_false_iff.mp accepted)) taken
      | true =>
          have behind : (state.advance 1).place.rest = rest := by
            rw [State.rest_advance, stands, List.drop_one, List.tail_cons]
          rw [List.takeWhile_cons_of_pos accepted, List.length_cons, Nat.add_comm,
            ← State.advance_advance, ← behind] at led
          rw [run_loop, rounds, run_set_accepted stands accepted]
          exact (moreRounds_set fun _ _ => .inr (Option.isSome_of_eq_some led)).trans led

/--
Any number of rounds takes the longest run of accepted characters if nothing that
follows starts with such a character.
-/
theorem run_anyOf (firm : ∀ next : State, ∀ c ∈ next.place.rest.head?,
      chars.accepts c = true → k next = none) :
    (Node.loop false 0 none (.set chars)).run state k =
      k (state.advance (state.place.rest.takeWhile chars.accepts).length) := by
  rw [run_loop, rounds, Option.map_none]
  refine moreRounds_set fun n short => .inl ?_
  have inside : n < state.place.rest.length :=
    Nat.lt_of_lt_of_le short (List.takeWhile_prefix _).length_le
  have same : (state.place.rest.takeWhile chars.accepts)[n] = state.place.rest[n] :=
    (List.takeWhile_prefix _).getElem short
  refine firm (state.advance n) state.place.rest[n] ?_ ?_
  · rw [State.rest_advance, List.head?_drop, List.getElem?_eq_getElem inside]
    rfl
  · rw [← same]
    exact List.all_eq_true.mp List.all_takeWhile _ (List.getElem_mem short)

theorem run_someOf_refused (refused : ∀ c ∈ state.place.rest.head?, chars.accepts c = false) :
    (Node.loop false 1 none (.set chars)).run state k = none := by
  rw [run_loop, rounds]
  exact run_set_refused refused

/-- An optional round over an accepted character is given up if it does not lead on. -/
theorem run_optional_accepted (stands : state.place.rest = c :: rest)
    (accepted : chars.accepts c = true) :
    (Node.loop false 0 (some 1) (.set chars)).run state k =
      (k (state.advance 1)).orElse fun _ => k state := by
  have one : some (1 - 0) ≠ some 0 := by decide
  rw [run_loop, rounds, Option.map_some, moreRounds_set_accepted one stands accepted,
    Option.map_some, moreRounds]

theorem run_optional_refused (refused : ∀ c ∈ state.place.rest.head?, chars.accepts c = false) :
    (Node.loop false 0 (some 1) (.set chars)).run state k = k state := by
  rw [run_loop, rounds]
  exact moreRounds_set_refused (some 1) refused

end Sets

section Expressions

variable {chars : CharSet} {place : Place} {c : Char} {rest : Text}

theorem matchAt_set (stands : place.rest = c :: rest) (accepted : chars.accepts c = true) :
    (Node.seq (.set chars) .empty).matchAt place = some [c] := by
  have ran : (Node.seq (.set chars) .empty).run (.initial place) some =
      some ((State.initial place).advance 1) := by
    rw [Node.run, run_set_accepted stands accepted, Node.run]
  rw [matchAt_of_run ran, stands]
  rfl

theorem matchAt_set_refused (refused : ∀ c ∈ place.rest.head?, chars.accepts c = false) :
    (Node.seq (.set chars) .empty).matchAt place = none := by
  refine matchAt_of_run_none ?_
  rw [Node.run]
  exact run_set_refused refused

theorem matchAt_someOf (taken : place.rest.takeWhile chars.accepts ≠ []) :
    (Node.seq (.loop false 1 none (.set chars)) .empty).matchAt place =
      some (place.rest.takeWhile chars.accepts) := by
  have ran : (Node.seq (.loop false 1 none (.set chars)) .empty).run (.initial place) some =
      some ((State.initial place).advance (place.rest.takeWhile chars.accepts).length) := by
    rw [Node.run]
    exact run_someOf taken rfl
  rw [matchAt_of_run ran, ← List.prefix_iff_eq_take.mp (List.takeWhile_prefix _)]

theorem matchAt_someOf_refused (refused : ∀ c ∈ place.rest.head?, chars.accepts c = false) :
    (Node.seq (.loop false 1 none (.set chars)) .empty).matchAt place = none := by
  refine matchAt_of_run_none ?_
  rw [Node.run]
  exact run_someOf_refused refused

end Expressions

end Regex

end Lexwork
