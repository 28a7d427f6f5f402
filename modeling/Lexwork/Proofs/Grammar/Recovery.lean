import Lexwork.Grammar.Program
import Lexwork.Proofs.Grammar.Confinement

/-!
# Recovery at semicolons

A failed statement leaves its semicolon for the recovery to find, and a parsed
one takes its own.  A program is therefore parsed segment by segment, where a
segment reaches to a semicolon or to the end: each segment makes one entry, the
one that it makes on its own.
-/

namespace Lexwork

namespace Grammar

namespace Program

def assignment : Parser Value := do
  let name ← Parser.expectContent "identifier"
  let _ ← TokenCursor.expect "equals"
  let tree ← expression.parse
  return .list [name, tree]

theorem confined_assignment : Confined (fun _ => True) assignment := by
  refine confined_bind (confined_expectContent (by decide)) fun name _ => ?_
  refine confined_bind (confined_expect (by decide)) fun _ _ => ?_
  refine confined_bind (expression.confined_parse Table.arithmetic_numeric Combine.node_total
    (List.mem_cons_self ..) (by decide)) fun tree _ => ?_
  exact confined_value trivial fun _ => rfl

/-- Behind its assignment a statement wants a semicolon. -/
theorem statement_eq (cursor : TokenCursor) :
    statement cursor =
      match assignment cursor with
      | .ok value after =>
          match TokenCursor.expect "semicolon" after with
          | .ok _ behind => .ok value behind
          | .error fault failed => .error fault failed
      | .error fault failed => .error fault failed := by
  simp only [statement, assignment, bind, EStateM.bind, pure, EStateM.pure]
  cases Parser.expectContent "identifier" cursor with
  | error fault failed => rfl
  | ok name named =>
      dsimp only
      cases TokenCursor.expect "equals" named with
      | error fault failed => rfl
      | ok _ equals =>
          dsimp only
          cases expression.parse equals with
          | error fault failed => rfl
          | ok tree after =>
              dsimp only
              cases TokenCursor.expect "semicolon" after with
              | error fault failed => rfl
              | ok _ behind => rfl

theorem statement_of_leaves_error {cursor : TokenCursor} {fault : Fault} {rest : List Value}
    (ended : Leaves (assignment cursor) (.error fault) rest) :
    ∃ failed, statement cursor = .error fault failed ∧ failed.HasRest rest := by
  rw [statement_eq]
  generalize assignment cursor = result at ended
  cases ended with
  | error behind => exact ⟨_, rfl, behind⟩

theorem statement_of_leaves_ok {cursor : TokenCursor} {value : Value} {rest : List Value}
    (ended : Leaves (assignment cursor) (.ok value) rest) :
    ∃ after, after.HasRest rest ∧ statement cursor =
      match TokenCursor.expect "semicolon" after with
      | .ok _ behind => .ok value behind
      | .error fault failed => .error fault failed := by
  rw [statement_eq]
  generalize assignment cursor = result at ended
  cases ended with
  | ok behind => exact ⟨_, behind, rfl⟩

/--
A statement in front of a tail made an entry: it took the head of the tail as its
semicolon, or it failed before the tail in a way to recover from.
-/
inductive Makes (tail : List Value) : Entry → EStateM.Result Fault TokenCursor Value → Prop
  | parsed {value : Value} {after : TokenCursor} (stands : after.HasRest tail.tail) :
      Makes tail (.ok value) (.ok value after)
  | failed {fault : Fault} {after : TokenCursor} {left : List Value}
      (parsing : fault.isParsing = true) (inner : ∀ item ∈ left, Inner item)
      (stands : after.HasRest (left ++ tail)) :
      Makes tail (.error fault) (.error fault after)

/-- The tokens up to a semicolon decide which entry a statement makes. -/
theorem exists_entry {body : List Value} {head : Option Value}
    (inner : ∀ item ∈ body, Inner item) (barrier : Barrier head) :
    ∃ entry : Entry, (head = none → ∃ fault, entry = .error fault) ∧
      ∀ tail cursor, tail.head? = head → cursor.HasRest (body ++ tail) →
        Makes tail entry (statement cursor) := by
  obtain ⟨outcome, left, suffix, recoverable, ends⟩ :=
    confined_assignment body head inner barrier
  have innerLeft : ∀ item ∈ left, Inner item := fun item inside =>
    inner item (suffix.subset inside)
  cases outcome with
  | error fault =>
      refine ⟨.error fault, fun _ => ⟨fault, rfl⟩, ?_⟩
      intro tail cursor starts stands
      obtain ⟨failed, tried, behind⟩ :=
        statement_of_leaves_error (ends tail cursor starts stands)
      rw [tried]
      exact .failed recoverable innerLeft behind
  | ok value =>
      by_cases complete : left = [] ∧ head ≠ none
      · obtain ⟨rfl, present⟩ := complete
        obtain ⟨stop, rfl⟩ := Option.ne_none_iff_exists'.mp present
        refine ⟨.ok value, fun absent => absurd absent present, ?_⟩
        intro tail cursor starts stands
        obtain ⟨after, behind, tried⟩ := statement_of_leaves_ok (ends tail cursor starts stands)
        obtain ⟨_, content, line, character, rfl⟩ := barrier stop rfl
        obtain ⟨more, rfl⟩ := List.head?_eq_some_iff.mp starts
        obtain ⟨beyond, found, stands⟩ := behind.expect_str ((Value.same_str _ _).mpr rfl)
        rw [tried, found]
        exact .parsed stands
      · have lacks : Lacks "semicolon" (left.head?.or head) := by
          cases left with
          | nil =>
              have absent : head = none := by simpa using complete
              subst absent
              exact fun _ inside => absurd inside (by simp)
          | cons item left =>
              intro other isHead
              cases isHead
              exact innerLeft item (List.mem_cons_self ..)
        refine ⟨.error (Unexpected.raise "semicolon" ((left.head?.or head).getD .none) .none .none),
          fun _ => ⟨_, rfl⟩, ?_⟩
        intro tail cursor starts stands
        obtain ⟨after, behind, tried⟩ := statement_of_leaves_ok (ends tail cursor starts stands)
        have refused := expect_of_lacks (head?_behind starts ▸ lacks) behind
        rw [head?_behind starts] at refused
        rw [tried, refused]
        exact .failed (lacks.isParsing _) innerLeft behind

theorem parse_atEnd {cursor : TokenCursor} (stands : cursor.HasRest []) :
    parse cursor = .ok [] := by
  rw [parse, stands.atEnd_nil]
  rfl

theorem parse_of_parsed {cursor after : TokenCursor} {value : Value}
    (before : cursor.atEnd = false) (tried : statement cursor = .ok value after) :
    parse cursor = (parse after).map (.ok value :: ·) := by
  conv => lhs; rw [parse, dif_pos before]
  split
  · rename_i found
    cases tried.symm.trans found
    rfl
  · rename_i found
    cases tried.symm.trans found

theorem parse_of_recovered {cursor failed after : TokenCursor} {fault : Fault}
    (before : cursor.atEnd = false) (tried : statement cursor = .error fault failed)
    (parsing : fault.isParsing = true)
    (recovered : TokenCursor.skipPast "semicolon" failed = .ok () after) :
    parse cursor = (parse after).map (.error fault :: ·) := by
  conv => lhs; rw [parse, dif_pos before]
  split
  · rename_i found
    cases tried.symm.trans found
  · rename_i found
    cases tried.symm.trans found
    rw [if_pos parsing]
    split
    · rename_i skipped
      cases recovered.symm.trans skipped
      rfl
    · rename_i skipped
      cases recovered.symm.trans skipped

/-- From inside a statement, skipping stops behind the next semicolon or at the end. -/
theorem skipPast_semicolon {left tail : List Value} {cursor : TokenCursor}
    (inner : ∀ item ∈ left, Inner item)
    (barrier : Barrier tail.head?)
    (stands : cursor.HasRest (left ++ tail)) :
    ∃ after, TokenCursor.skipPast "semicolon" cursor = .ok () after ∧
      after.HasRest tail.tail := by
  induction left generalizing cursor with
  | nil =>
      cases tail with
      | nil => exact ⟨cursor, stands.skipPast_nil _, stands⟩
      | cons stop more =>
          obtain ⟨_, content, line, character, rfl⟩ := barrier stop rfl
          exact ⟨cursor.skip, stands.skipPast_same ((Value.same_str _ _).mpr rfl), stands.skip⟩
  | cons item left ih =>
      obtain ⟨⟨content, type, line, character, rfl, _⟩, other⟩ :=
        inner item (List.mem_cons_self ..)
      rw [stands.skipPast_other (not_isOfType_iff_same.mp other)]
      exact ih (fun item inside => inner item (List.mem_cons_of_mem _ inside)) stands.skip

/-- The entry that a statement makes of tokens on their own. -/
def entryOf (items : List Value) : Entry :=
  match statement { tokens := items } with
  | .ok value _ => .ok value
  | .error fault _ => .error fault

theorem Makes.entryOf {tail items : List Value} {entry : Entry}
    (made : Makes tail entry (statement { tokens := items })) : entryOf items = entry := by
  rw [Program.entryOf]
  generalize statement { tokens := items } = result at made
  cases made with
  | parsed stands => rfl
  | failed parsing inner stands => rfl

/-- A round makes the entry of the next statement and goes on behind its semicolon. -/
theorem parse_segment {body tail : List Value} {cursor : TokenCursor}
    (inner : ∀ item ∈ body, Inner item)
    (barrier : Barrier tail.head?)
    (some : body ++ tail ≠ []) (stands : cursor.HasRest (body ++ tail)) :
    ∃ after, parse cursor = (parse after).map (entryOf (body ++ tail.take 1) :: ·) ∧
      after.HasRest tail.tail := by
  obtain ⟨entry, _, makes⟩ := exists_entry inner barrier
  -- The same entry is made of the statement's own tokens.
  have own : entryOf (body ++ tail.take 1) = entry := by
    refine (makes (tail.take 1) _ ?_ (TokenCursor.hasRest_start _ false)).entryOf
    cases tail <;> rfl
  have before : cursor.atEnd = false := by
    obtain ⟨item, rest, whole⟩ := List.exists_cons_of_ne_nil some
    rw [whole] at stands
    exact stands.atEnd_cons
  have made := makes tail cursor rfl stands
  generalize tried : statement cursor = result at made
  rw [own]
  cases made with
  | parsed behind => exact ⟨_, parse_of_parsed before tried, behind⟩
  | failed parsing innerLeft behind =>
      obtain ⟨after, recovered, beyond⟩ := skipPast_semicolon innerLeft barrier behind
      exact ⟨after, parse_of_recovered before tried parsing recovered, beyond⟩

/-! ## Segments -/

def endsStatement : Value → Bool
  | .token _ type _ _ => type.same "semicolon"
  | _ => false

theorem endsStatement_iff {item : Value} :
    endsStatement item = true ↔ IsOfType "semicolon" item := by
  constructor
  · intro ends
    cases item with
    | token content type line character =>
        have typed : type = "semicolon" := (Value.same_str _ _).mp ends
        exact ⟨content, line, character, by rw [typed]⟩
    | _ => cases ends
  · rintro ⟨content, line, character, rfl⟩
    exact (Value.same_str _ _).mpr rfl

/-- Cuts items behind every semicolon; only the last segment may lack one. -/
def segments : List Value → List (List Value)
  | [] => []
  | item :: rest =>
      if endsStatement item then [item] :: segments rest
      else
        match segments rest with
        | [] => [[item]]
        | segment :: later => (item :: segment) :: later

/-- The last item is a semicolon. -/
def Terminated (items : List Value) : Prop :=
  ∃ stop ∈ items.getLast?, IsOfType "semicolon" stop

/-- None of the items is a semicolon. -/
def Unbroken (items : List Value) : Prop :=
  ∀ item ∈ items, endsStatement item = false

theorem segments_closed {body : List Value} {stop : Value} (unbroken : Unbroken body)
    (ends : endsStatement stop = true) (more : List Value) :
    segments (body ++ stop :: more) = (body ++ [stop]) :: segments more := by
  induction body with
  | nil => simp [segments, ends]
  | cons item body ih =>
      have inside : endsStatement item = false := unbroken item (List.mem_cons_self ..)
      have later := ih fun item member => unbroken item (List.mem_cons_of_mem _ member)
      simp [segments, inside, later]

theorem segments_open {body : List Value} (unbroken : Unbroken body) (some : body ≠ []) :
    segments body = [body] := by
  induction body with
  | nil => exact absurd rfl some
  | cons item body ih =>
      have inside : endsStatement item = false := unbroken item (List.mem_cons_self ..)
      cases body with
      | nil => simp [segments, inside]
      | cons next body =>
          have later := ih (fun item member => unbroken item (List.mem_cons_of_mem _ member))
            (List.cons_ne_nil next body)
          rw [segments, later]
          simp [inside]

/-- Items are handled segment by segment. -/
theorem segments_induction {motive : List Value → Prop} (nil : motive [])
    (unterminated : ∀ body, Unbroken body → body ≠ [] → motive body)
    (segment : ∀ body stop more, Unbroken body → endsStatement stop = true → motive more →
      motive (body ++ stop :: more)) (items : List Value) : motive items := by
  generalize sized : items.length = size
  induction size using Nat.strongRecOn generalizing items with
  | ind size ih =>
      cases found : items.find? endsStatement with
      | none =>
          have unbroken : Unbroken items := by simpa [Unbroken] using found
          by_cases empty : items = []
          · rw [empty]
            exact nil
          · exact unterminated items unbroken empty
      | some stop =>
          obtain ⟨ends, body, more, rfl, before⟩ := List.find?_eq_some_iff_append.mp found
          have unbroken : Unbroken body := by simpa [Unbroken] using before
          simp only [List.length_append, List.length_cons] at sized
          exact segment body stop more unbroken ends (ih more.length (by omega) more rfl)

theorem terminated_closed {body : List Value} {stop : Value} (ends : endsStatement stop = true) :
    Terminated (body ++ [stop]) :=
  ⟨stop, by simp, endsStatement_iff.mp ends⟩

/-- A segment is closed by its only semicolon, or is the last one and has none. -/
theorem segment_shape {items segment : List Value} (inside : segment ∈ segments items) :
    segment ⊆ items ∧ segments segment = [segment] ∧
      (Terminated segment ∨ Unbroken segment) := by
  induction items using segments_induction with
  | nil => cases inside
  | unterminated body unbroken some =>
      rw [segments_open unbroken some, List.mem_singleton] at inside
      subst inside
      exact ⟨fun _ member => member, segments_open unbroken some, .inr unbroken⟩
  | segment body stop more unbroken ends ih =>
      rw [segments_closed unbroken ends] at inside
      rcases List.mem_cons.mp inside with rfl | later
      · refine ⟨?_, segments_closed unbroken ends [], .inl (terminated_closed ends)⟩
        simp
      · obtain ⟨within, single, shape⟩ := ih later
        exact ⟨fun item member => by simp [within member], single, shape⟩

theorem Terminated.not_unbroken {items : List Value} (terminated : Terminated items) :
    ¬ Unbroken items := by
  obtain ⟨stop, last, typed⟩ := terminated
  intro unbroken
  have ends := unbroken stop (List.mem_of_getLast? last)
  rw [endsStatement_iff.mpr typed] at ends
  cases ends

theorem Terminated.behind {body more : List Value} {stop : Value}
    (terminated : Terminated (body ++ stop :: more)) : more = [] ∨ Terminated more := by
  cases more with
  | nil => exact .inl rfl
  | cons item more =>
      obtain ⟨last, isLast, typed⟩ := terminated
      exact .inr ⟨last, by simpa [List.getLast?_append] using isLast, typed⟩

theorem segments_append {first : List Value} (closed : first = [] ∨ Terminated first)
    (second : List Value) : segments (first ++ second) = segments first ++ segments second := by
  induction first using segments_induction with
  | nil => rfl
  | unterminated body unbroken some =>
      rcases closed with rfl | terminated
      · exact absurd rfl some
      · exact absurd unbroken terminated.not_unbroken
  | segment body stop more unbroken ends ih =>
      have behind : more = [] ∨ Terminated more := by
        rcases closed with impossible | terminated
        · simp at impossible
        · exact terminated.behind
      rw [List.append_assoc, List.cons_append, segments_closed unbroken ends,
        segments_closed unbroken ends, ih behind, List.cons_append]

theorem inner_of_unbroken {items : List Value} (unbroken : Unbroken items)
    (readable : ∀ item ∈ items, Readable item) : ∀ item ∈ items, Inner item := by
  intro item inside
  refine ⟨readable item inside, fun typed => ?_⟩
  have ends := unbroken item inside
  rw [endsStatement_iff.mpr typed] at ends
  cases ends

/-- A program makes of each segment the entry that the segment makes on its own. -/
theorem parse_eq_map_entryOf {items : List Value} (readable : ∀ item ∈ items, Readable item)
    {cursor : TokenCursor} (stands : cursor.HasRest items) :
    parse cursor = .ok ((segments items).map entryOf) := by
  induction items using segments_induction generalizing cursor with
  | nil => exact parse_atEnd stands
  | unterminated body unbroken some =>
      have ended : Barrier ([] : List Value).head? := barrier_none
      rw [← List.append_nil body] at stands
      obtain ⟨after, round, behind⟩ :=
        parse_segment (inner_of_unbroken unbroken readable) ended (by simpa using some) stands
      rw [round, parse_atEnd behind, segments_open unbroken some]
      simp [Except.map]
  | segment body stop more unbroken ends ih =>
      have innerBody : ∀ item ∈ body, Inner item :=
        inner_of_unbroken unbroken fun item inside => readable item (by simp [inside])
      have barrier : Barrier (stop :: more).head? := by
        intro item isHead
        cases isHead
        exact ⟨readable stop (by simp), endsStatement_iff.mp ends⟩
      obtain ⟨after, round, behind⟩ := parse_segment innerBody barrier (by simp) stands
      rw [round, ih (fun item inside => readable item (by simp [inside])) behind,
        segments_closed unbroken ends]
      simp [Except.map]

theorem entryOf_unbroken {items : List Value} (unbroken : Unbroken items)
    (readable : ∀ item ∈ items, Readable item) : ∃ fault, entryOf items = .error fault := by
  obtain ⟨entry, fails, makes⟩ := exists_entry (inner_of_unbroken unbroken readable) barrier_none
  have stands := TokenCursor.hasRest_start (items ++ []) false
  have made := (makes [] _ rfl stands).entryOf
  rw [List.append_nil] at made
  rw [made]
  exact fails rfl

/--
A program makes exactly one entry of each segment of its tokens, in order.  The
entry of a segment that ends in a semicolon is what a program of that segment
alone makes, and an unterminated segment always makes a failure.  So a program
may be cut behind any semicolon and parsed in two parts.
-/
theorem parse_by_segments (tokens : List Value) (readable : ∀ item ∈ tokens, Readable item)
    (debug : Bool) :
    ∃ entries, parse { tokens := tokens, debug := debug } = .ok entries ∧
      entries.length = (segments tokens).length ∧
      (∀ (i : Nat) segment, (segments tokens)[i]? = some segment →
        ∃ entry, entries[i]? = some entry ∧
          (Terminated segment → parse { tokens := segment, debug := debug } = .ok [entry]) ∧
          (¬ Terminated segment → ∃ fault, entry = .error fault)) ∧
      ∀ first second, tokens = first ++ second → (first = [] ∨ Terminated first) →
        ∃ before after, parse { tokens := first, debug := debug } = .ok before ∧
          parse { tokens := second, debug := debug } = .ok after ∧
          entries = before ++ after := by
  refine ⟨(segments tokens).map entryOf,
    parse_eq_map_entryOf readable (TokenCursor.hasRest_start tokens debug), by simp, ?_, ?_⟩
  · intro i segment found
    obtain ⟨within, single, shape⟩ := segment_shape (List.mem_of_getElem? found)
    have readableSegment : ∀ item ∈ segment, Readable item := fun item inside =>
      readable item (within inside)
    refine ⟨entryOf segment, by simp [found], ?_, ?_⟩
    · intro _
      rw [parse_eq_map_entryOf readableSegment (TokenCursor.hasRest_start segment debug), single]
      rfl
    · intro unterminated
      rcases shape with terminated | unbroken
      · exact absurd terminated unterminated
      · exact entryOf_unbroken unbroken readableSegment
  · rintro first second rfl closed
    refine ⟨(segments first).map entryOf, (segments second).map entryOf, ?_, ?_, ?_⟩
    · exact parse_eq_map_entryOf (fun item inside => readable item (by simp [inside]))
        (TokenCursor.hasRest_start first debug)
    · exact parse_eq_map_entryOf (fun item inside => readable item (by simp [inside]))
        (TokenCursor.hasRest_start second debug)
    · rw [segments_append closed, List.map_append]

/-- The unknown operator of the first statement is taken before it is refused. -/
theorem parse_by_segments_unknownOperator :
    ∃ entries, parse
        { tokens :=
            [.token "a" "identifier" .none .none, .token "=" "equals" .none .none,
              .token "b" "identifier" .none .none, .token "%" "operator" .none .none,
              .token ";" "semicolon" .none .none, .token "c" "identifier" .none .none],
          debug := true } = .ok entries ∧
      entries.length = 2 ∧
      ∃ entry, entries[0]? = some entry ∧ parse
        { tokens :=
            [.token "a" "identifier" .none .none, .token "=" "equals" .none .none,
              .token "b" "identifier" .none .none, .token "%" "operator" .none .none,
              .token ";" "semicolon" .none .none],
          debug := true } = .ok [entry] := by
  obtain ⟨entries, parsed, counted, alone, _⟩ := parse_by_segments
    [.token "a" "identifier" .none .none, .token "=" "equals" .none .none,
      .token "b" "identifier" .none .none, .token "%" "operator" .none .none,
      .token ";" "semicolon" .none .none, .token "c" "identifier" .none .none]
    (by simp) true
  obtain ⟨entry, first, same, _⟩ := alone 0 _ rfl
  exact ⟨entries, parsed, counted, entry, first, same ⟨_, rfl, _, _, _, rfl⟩⟩

end Program

end Grammar

end Lexwork
