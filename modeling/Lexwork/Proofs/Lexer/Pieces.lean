import Lexwork.Proofs.Lexer.Chain

/-!
# Texts put together from pieces

A text that is put together from pieces is cut into these pieces again if each of
them is taken first wherever it stands before the pieces behind it.  What a
definition takes is said of the rest of the text alone, so that it can be said of
a piece before its place in the whole text is known.
-/

namespace Lexwork

/-- The elements of two lists in turn; what is left of one of them comes last. -/
def alternate {α : Type} : List α → List α → List α
  | first :: firsts, second :: seconds => first :: second :: alternate firsts seconds
  | firsts, [] => firsts
  | [], seconds => seconds

@[simp] theorem alternate_nil {α : Type} (firsts : List α) : alternate firsts [] = firsts := by
  cases firsts with
  | nil => rfl
  | cons first firsts => rfl

@[simp] theorem nil_alternate {α : Type} (seconds : List α) : alternate [] seconds = seconds := by
  cases seconds with
  | nil => rfl
  | cons second seconds => rfl

theorem map_alternate {α β : Type} (f : α → β) (firsts seconds : List α) :
    (alternate firsts seconds).map f = alternate (firsts.map f) (seconds.map f) := by
  fun_induction alternate firsts seconds with
  | case1 first firsts second seconds ih => simp only [List.map_cons, alternate, ih]
  | case2 firsts => simp only [List.map_nil, alternate_nil]
  | case3 seconds => simp only [List.map_nil, nil_alternate]

namespace Definition

/-- A definition does not match wherever a text is the rest. -/
def Declines (definition : Definition) (text : Text) : Prop :=
  ∀ place tracker, place.rest = text → definition.matchHere place tracker = .ok none

/-- A definition matches a piece wherever a text is the rest. -/
def Matches (definition : Definition) (text piece : Text) : Prop :=
  ∀ place tracker, place.rest = text →
    definition.matchHere place tracker = .ok (some ⟨piece, .bool true, .none⟩)

variable {definition : Definition} {expression : Regex} {text piece : Text}

theorem matches_regex (given : definition.matcher = .regex expression)
    (matched : ∀ place : Place, place.rest = text → expression.node.matchAt place = some piece)
    (nonempty : piece ≠ []) : definition.Matches text piece := by
  intro place tracker stands
  have stays : piece.isPrefixOf place.rest = true := by
    have found := matched place stands
    rw [Regex.Node.matchAt, Option.map_eq_some_iff] at found
    obtain ⟨final, _, rfl⟩ := found
    exact List.isPrefixOf_iff_prefix.mpr (List.take_prefix _ _)
  rw [matchHere, given, Matcher.attempt, Regex.resultAt, matched place stands]
  simp [Except.bind, Value.success, judge, Value.truthy, stays, nonempty]

theorem declines_regex (given : definition.matcher = .regex expression)
    (declined : ∀ place : Place, place.rest = text → expression.node.matchAt place = none) :
    definition.Declines text := by
  intro place tracker stands
  rw [matchHere, given, Matcher.attempt, Regex.resultAt, declined place stands]
  rfl

theorem matchHere_consumer {consume : Consumer} {place : Place} {content : Value}
    (given : definition.matcher = .consumer consume)
    (returned : consume place.rest = .ok (.result (.bool true) (.str piece) content))
    (stands : piece <+: place.rest) (nonempty : piece ≠ []) (tracker : Tracker) :
    definition.matchHere place tracker = .ok (some ⟨piece, .bool true, content⟩) := by
  have stays : piece.isPrefixOf place.rest = true := List.isPrefixOf_iff_prefix.mpr stands
  rw [matchHere, given, Matcher.attempt, returned]
  simp [Except.bind, judge, Value.truthy, stays, nonempty]

theorem declines_consumer {consume : Consumer} (given : definition.matcher = .consumer consume)
    (returned : consume text = .ok .failure) : definition.Declines text := by
  intro place tracker stands
  rw [matchHere, given, Matcher.attempt, stands, returned]
  rfl

/-- What a definition by an expression matches is what the expression does, with no content. -/
theorem matchHere_regex_eq_some {place : Place} {tracker : Tracker} {found : Match}
    (given : definition.matcher = .regex expression)
    (matched : definition.matchHere place tracker = .ok (some found)) :
    found = ⟨found.consumed, .bool true, .none⟩ ∧
      expression.node.matchAt place = some found.consumed := by
  rw [matchHere, given, Matcher.attempt, Regex.resultAt] at matched
  cases answer : expression.node.matchAt place with
  | none =>
      rw [answer] at matched
      cases matched
  | some piece =>
      rw [answer] at matched
      simp only [Except.bind, Value.success, judge] at matched
      split at matched
      · cases matched
      · split at matched
        · split at matched
          · cases matched
          · cases matched
            exact ⟨rfl, rfl⟩
        · cases matched

/-! ## Definitions that look at nothing but what is left -/

/-- A definition looks at nothing but the text that is left. -/
def ReadsRest (definition : Definition) : Prop :=
  ∀ place other : Place, place.rest = other.rest →
    definition.matcher.attempt place = definition.matcher.attempt other

theorem readsRest_consumer {definition : Definition} {consume : Consumer}
    (given : definition.matcher = .consumer consume) : definition.ReadsRest := by
  intro place other same
  rw [given, Matcher.attempt, Matcher.attempt, same]

/-- A tracker has no say in what is judged to be a match. -/
theorem judge_eq_ok_iff (name : Text) (tracker other : Tracker) (stands : Text → Bool)
    (value : Value) (answer : Option Match) :
    judge name tracker stands value = .ok answer ↔ judge name other stands value = .ok answer := by
  cases value with
  | result success consumed content =>
      simp only [judge]
      split
      · rfl
      · split
        · split
          · rfl
          · simp
        · simp
  | _ => simp [judge]

/-- What is judged not to be a match is never reported as unmatched text. -/
theorem judge_ne_unmatched (name : Text) (tracker : Tracker) (stands : Text → Bool)
    (value : Value) (place : Unmatched) :
    judge name tracker stands value ≠ .error (.unmatched place) := by
  have misplaced (consumed : Value) : notPrefix name tracker consumed ≠ .unmatched place :=
    Fault.showing_ne nofun nofun
  have noResult : Fault.showing value.literal? (fun shown => .lexing (.notResult name shown)) ≠
      .unmatched place := Fault.showing_ne nofun nofun
  unfold judge
  split
  · split
    · simp
    · split
      · split
        · simp
        · simpa using misplaced _
      · simpa using misplaced _
  · simpa using noResult

theorem ReadsRest.matchHere_eq_ok_iff (reads : definition.ReadsRest) {place other : Place}
    (same : place.rest = other.rest) (tracker tracker' : Tracker) {answer : Option Match} :
    definition.matchHere place tracker = .ok answer ↔
      definition.matchHere other tracker' = .ok answer := by
  rw [matchHere, matchHere, reads place other same, same]
  cases definition.matcher.attempt other with
  | error fault => simp [Except.bind]
  | ok value => exact judge_eq_ok_iff ..

theorem ReadsRest.matchHere_eq_unmatched (reads : definition.ReadsRest) {place other : Place}
    (same : place.rest = other.rest) {tracker : Tracker} (tracker' : Tracker) {report : Unmatched}
    (failed : definition.matchHere place tracker = .error (.unmatched report)) :
    definition.matchHere other tracker' = .error (.unmatched report) := by
  rw [matchHere, reads place other same] at failed
  rw [matchHere]
  cases attempted : definition.matcher.attempt other with
  | error fault =>
      rw [attempted] at failed
      exact failed
  | ok value =>
      rw [attempted] at failed
      exact (judge_ne_unmatched _ _ _ _ _ failed).elim

end Definition

namespace Lexer

variable {definitions : List Definition}

/-- A piece of a text, the definition that takes it and the content of its token. -/
structure Piece where
  definition : Definition
  text : Text
  content : Value

def textOf (pieces : List Piece) : Text :=
  pieces.flatMap Piece.text

/-- The tokens of pieces in a row, the first of which stands where the tracker does. -/
def tokensFrom (tracker : Tracker) : List Piece → List Token
  | [] => []
  | piece :: rest =>
      tokensOf piece.definition piece.content tracker ++
        tokensFrom (tracker.consume piece.text) rest

/-- A piece is the first cut wherever it stands before a text. -/
def Takes (definitions : List Definition) (piece : Piece) (behind : Text) : Prop :=
  ∀ place tracker, place.rest = piece.text ++ behind →
    ∃ found, firstMatch place tracker definitions = .ok (some (piece.definition, found)) ∧
      found.consumed = piece.text ∧ piece.definition.contentOf found = .ok piece.content

/-- Pieces in a row are the first cuts wherever they stand before a text. -/
def TakesAll (definitions : List Definition) : List Piece → Text → Prop
  | [], _ => True
  | piece :: rest, behind =>
      Takes definitions piece (textOf rest ++ behind) ∧ TakesAll definitions rest behind

theorem textOf_cons (piece : Piece) (rest : List Piece) :
    textOf (piece :: rest) = piece.text ++ textOf rest :=
  List.flatMap_cons

theorem textOf_append (first second : List Piece) :
    textOf (first ++ second) = textOf first ++ textOf second :=
  List.flatMap_append

theorem tokensFrom_append (tracker : Tracker) (first second : List Piece) :
    tokensFrom tracker (first ++ second) =
      tokensFrom tracker first ++ tokensFrom (tracker.consume (textOf first)) second := by
  induction first generalizing tracker with
  | nil => rfl
  | cons piece rest ih =>
      rw [List.cons_append, tokensFrom, tokensFrom, ih, textOf_cons, Tracker.consume_append,
        List.append_assoc]

/-- Pieces in a row are cut like their parts, the first of which stands before the second. -/
theorem takesAll_append {first second : List Piece} {behind : Text}
    (before : TakesAll definitions first (textOf second ++ behind))
    (after : TakesAll definitions second behind) :
    TakesAll definitions (first ++ second) behind := by
  induction first with
  | nil => exact after
  | cons piece rest ih =>
      obtain ⟨taken, later⟩ := before
      have here : Takes definitions piece (textOf (rest ++ second) ++ behind) := by
        rw [textOf_append, List.append_assoc]
        exact taken
      exact ⟨here, ih later⟩

/-- All definitions of a list that come before a definition decline a text. -/
def ComesFirst (definition : Definition) (definitions : List Definition) (text : Text) : Prop :=
  ∃ earlier later, definitions = earlier ++ definition :: later ∧
    ∀ other ∈ earlier, other.Declines text

/-- If all others decline, the order of the definitions does not matter. -/
theorem comesFirst_of_mem {definition : Definition} {text : Text}
    (listed : definition ∈ definitions)
    (others : ∀ other ∈ definitions, other = definition ∨ other.Declines text) :
    ComesFirst definition definitions text := by
  induction definitions with
  | nil => cases listed
  | cons head tail ih =>
      obtain ⟨here, later⟩ := List.forall_mem_cons.mp others
      rcases here with rfl | declined
      · exact ⟨[], tail, rfl, List.forall_mem_nil _⟩
      · rcases List.mem_cons.mp listed with rfl | inTail
        · exact ⟨[], tail, rfl, List.forall_mem_nil _⟩
        · obtain ⟨earlier, rest, rfl, declines⟩ := ih inTail later
          exact ⟨head :: earlier, rest, rfl, List.forall_mem_cons.mpr ⟨declined, declines⟩⟩

/-- A piece is taken by the first definition that does not decline, with whatever it found. -/
theorem takes_of_found {piece : Piece} {behind : Text} {found : Match}
    (first : ComesFirst piece.definition definitions (piece.text ++ behind))
    (matched : ∀ place tracker, place.rest = piece.text ++ behind →
      piece.definition.matchHere place tracker = .ok (some found))
    (consumed : found.consumed = piece.text)
    (carried : piece.definition.contentOf found = .ok piece.content) :
    Takes definitions piece behind := by
  obtain ⟨earlier, later, rfl, declined⟩ := first
  intro place tracker stands
  refine ⟨found, ?_, consumed, carried⟩
  rw [firstMatch_of_declines fun other inside => declined other inside place tracker stands,
    firstMatch, matched place tracker stands]

theorem takes_of_matches {definition : Definition} {text behind : Text} {content : Value}
    (first : ComesFirst definition definitions (text ++ behind))
    (matched : definition.Matches (text ++ behind) text)
    (carried : definition.contentOf ⟨text, .bool true, .none⟩ = .ok content) :
    Takes definitions ⟨definition, text, content⟩ behind :=
  takes_of_found first matched rfl carried

/-- Before a piece that is taken, a lexer makes its token and goes on behind it. -/
theorem scan_of_takes {piece : Piece} {behind : Text} {place : Place}
    (taken : Takes definitions piece behind) (stands : place.rest = piece.text ++ behind)
    (tracker : Tracker) :
    scan definitions place tracker =
      (scan definitions (place.advance piece.text.length) (tracker.consume piece.text)).map
        (tokensOf piece.definition piece.content tracker ++ ·) := by
  obtain ⟨found, first, consumed, carried⟩ := taken place tracker stands
  obtain ⟨nonempty, before⟩ := firstMatch_eq_some first
  have more : place.rest ≠ [] := by
    intro ended
    rw [ended] at before
    exact nonempty (List.prefix_nil.mp before)
  rw [scan_eq_of_rest more, first]
  dsimp only
  rw [carried, consumed]

/-- Before pieces that are taken in a row, a lexer makes their tokens and goes on behind them. -/
theorem scan_of_takesAll {pieces : List Piece} {behind : Text} {place : Place}
    (taken : TakesAll definitions pieces behind) (stands : place.rest = textOf pieces ++ behind)
    (tracker : Tracker) :
    scan definitions place tracker =
      (scan definitions (place.advance (textOf pieces).length)
        (tracker.consume (textOf pieces))).map (tokensFrom tracker pieces ++ ·) := by
  induction pieces generalizing place tracker with
  | nil =>
      rw [textOf, List.flatMap_nil, List.length_nil, Place.advance_zero, Tracker.consume_nil]
      cases scan definitions place tracker with
      | error fault => rfl
      | ok tokens => rfl
  | cons piece rest ih =>
      obtain ⟨first, later⟩ := taken
      rw [textOf_cons, List.append_assoc] at stands
      have moved : (place.advance piece.text.length).rest = textOf rest ++ behind := by
        rw [Place.rest_advance, stands, List.drop_left]
      rw [scan_of_takes first stands tracker, ih later moved, textOf_cons, List.length_append,
        Place.advance_advance, Tracker.consume_append, tokensFrom]
      cases scan definitions (place.advance (piece.text.length + (textOf rest).length))
          ((tracker.consume piece.text).consume (textOf rest)) with
      | error fault => rfl
      | ok tokens => simp only [Except.map, List.append_assoc]

/-- A text of pieces that are taken in a row is cut into exactly their tokens. -/
theorem tokenize_textOf {lexer : Lexer} {pieces : List Piece} (registered : lexer.patterns ≠ [])
    (taken : TakesAll lexer.patterns pieces []) :
    lexer.tokenize (.str (textOf pieces)) = .ok (tokensFrom {} pieces) := by
  have some : lexer.patterns.isEmpty = false := by simpa using registered
  have stands : (Place.start (textOf pieces)).rest = textOf pieces ++ [] :=
    (List.append_nil _).symm
  have ended : ((Place.start (textOf pieces)).advance (textOf pieces).length).rest = [] := by
    rw [Place.rest_advance]
    exact List.drop_length
  rw [tokenize, some, if_neg Bool.false_ne_true, scan_of_takesAll taken stands, scan, if_pos ended]
  simp only [Except.map, List.append_nil]

end Lexer

end Lexwork
