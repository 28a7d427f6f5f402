import Lexwork.Proofs.Cursor.Rest

/-!
# Reading tokens from the front

To whoever asks it, a cursor over tokens is the list of the tokens that are not
read yet.  Taking a token drops the head of that list, skipping drops a first
part of it, and everything else only looks at its head.  So a cursor answers any
requests, in any order, as the list would, whatever failed before: a request that
is refused leaves the cursor where it is, and none moves it back.
-/

namespace Lexwork

def Value.IsToken (value : Value) : Prop :=
  ∃ content type line character, value = .token content type line character

/-- A token that can be shown. -/
def Value.IsReadableToken (value : Value) : Prop :=
  ∃ content type line character, value = .token content type line character ∧
    content.HasText ∧ type.HasText

theorem Value.IsReadableToken.isToken {value : Value} (token : value.IsReadableToken) :
    value.IsToken := by
  obtain ⟨content, type, line, character, rfl, _⟩ := token
  exact ⟨content, type, line, character, rfl⟩

namespace TokenCursor

/-- What a caller may ask of a cursor, short of setting its index. -/
inductive Request
  | peek
  | looksAt (type : Value)
  | next
  | expect (type : Value)
  | expectEnd
  | skipPast (type : Value)
  | position
  | atEnd
  | remaining
  | debug
  | setDebug (switch : Value)
  | debugLog (message : Value)

inductive Request.IsLooking : Request → Prop
  | peek : IsLooking .peek
  | looksAt (type : Value) : IsLooking (.looksAt type)
  | expectEnd : IsLooking .expectEnd
  | position : IsLooking .position
  | atEnd : IsLooking .atEnd

abbrev Reply (σ : Type) := Except Fault Value × σ

/-- The reply that an action gives. -/
def replyOf {α : Type} (answer : α → Value) :
    EStateM.Result Fault TokenCursor α → Reply TokenCursor
  | .ok value after => (.ok (answer value), after)
  | .error fault after => (.error fault, after)

def serve (cursor : TokenCursor) : Request → Reply TokenCursor
  | .peek => (cursor.peek, cursor)
  | .looksAt type => ((cursor.looksAt type).map .bool, cursor)
  | .next => replyOf id (TokenCursor.next cursor)
  | .expect type => replyOf id (TokenCursor.expect type cursor)
  | .expectEnd => (cursor.expectEnd.map fun _ => .none, cursor)
  | .skipPast type => replyOf (fun _ => .none) (TokenCursor.skipPast type cursor)
  | .position => (cursor.position, cursor)
  | .atEnd => (.ok (.bool cursor.atEnd), cursor)
  | .remaining => (.ok (.int cursor.remaining), cursor)
  | .debug => (.ok (.bool cursor.debug), cursor)
  | .setDebug switch =>
      match cursor.setDebug switch with
      | .ok after => (.ok .none, after)
      | .error fault => (.error fault, cursor)
  | .debugLog message => (.ok .none, cursor.debugLog message)

/-- Carries out requests in turn, whether they are refused or not. -/
def serveAll {σ : Type} (serve : σ → Request → Reply σ) :
    σ → List Request → List (Except Fault Value) × σ
  | state, [] => ([], state)
  | state, request :: more =>
      let reply := serve state request
      let later := serveAll serve reply.2 more
      (reply.1 :: later.1, later.2)

/-! ## The list of unread tokens -/

/-- Tokens that are not read yet, and the debug log with its switch, newest first. -/
structure Unread where
  rest : List Value
  debug : Bool
  log : List Text := []

def isOf (type : Value) : Value → Bool
  | .token _ found _ _ => found.same type
  | _ => false

/-- That one thing was expected and another seen, if both have a text. -/
def words? (expected seen : Value) : Option Value := do
  return .str ("Expected " ++ (← expected.display?) ++ " but found " ++ (← seen.display?))

/--
The refusal of what stands first, or of the end, where something else is expected.
All that the refusal tells of needs a text.
-/
def refusal (expected : Value) (rest : List Value) : Fault :=
  match rest with
  | .token content type line character :: _ =>
      match content.display?, words? expected type with
      | some shown, some words =>
          .unexpected ⟨expected, type, .token content type line character, line, character,
            shown.length, words⟩
      | _, _ => .badValue .tooLongToWrite
  | _ =>
      match words? expected "EOF" with
      | some words => .unexpected ⟨expected, "EOF", .none, .none, .none, 0, words⟩
      | none => .badValue .tooLongToWrite

/-- What has to be shown if a request is refused, and where a token of a type is taken. -/
def Request.shown (request : Request) (rest : List Value) : List Value :=
  let first : List Value :=
    match rest with
    | .token content type _ _ :: _ => [content, type]
    | _ => []
  match request with
  | .expect type => type :: first
  | .expectEnd => first
  | _ => []

namespace Unread

/-- Writes a text to the debug log, if that is switched on and there is a text. -/
def note (unread : Unread) (words? : Option Text) : Unread :=
  match unread.debug, words? with
  | true, some words => { unread with log := words :: unread.log }
  | _, _ => unread

def serve (unread : Unread) : Request → Reply Unread
  | .peek =>
      match unread.rest with
      | [] => (.error (.parsing .nothingToPeek), unread)
      | item :: _ => (.ok item, unread)
  | .looksAt type =>
      match unread.rest with
      | [] => (.error (.parsing .nothingToPeek), unread)
      | item :: _ => (.ok (.bool (isOf type item)), unread)
  | .next =>
      match unread.rest with
      | [] => (.error (.parsing .nothingToTake), unread)
      | item :: rest => (.ok item, { unread with rest })
  | .expect type =>
      match unread.rest with
      | [] => (.error (refusal type []), unread)
      | item :: rest =>
          if isOf type item then
            match type.display? with
            | some shown => (.ok item, { unread.note (some ("matched " ++ shown)) with rest })
            | none => (.error (.badValue .tooLongToWrite), unread)
          else (.error (refusal type unread.rest), unread)
  | .expectEnd =>
      match unread.rest with
      | [] => (.ok .none, unread)
      | _ :: _ => (.error (refusal "EOF" unread.rest), unread)
  | .skipPast type =>
      (.ok .none, { unread with rest := (unread.rest.dropWhile fun item => !isOf type item).tail })
  | .position =>
      match unread.rest with
      | .token _ _ line character :: _ => (.ok (.tuple [line, character]), unread)
      | _ => (.error (.parsing .nothingToPeek), unread)
  | .atEnd => (.ok (.bool unread.rest.isEmpty), unread)
  | .remaining => (.ok (.int unread.rest.length), unread)
  | .debug => (.ok (.bool unread.debug), unread)
  | .setDebug switch =>
      match switch with
      | .bool debug => (.ok .none, { unread with debug })
      | _ => (.error (.badValue .debugFlag), unread)
  | .debugLog message => (.ok .none, unread.note message.display?)

end Unread

/-- A cursor over the given tokens stands before the unread ones. -/
structure Reads (tokens : List Value) (cursor : TokenCursor) (unread : Unread) : Prop where
  tokens : cursor.tokens = tokens
  rest : cursor.HasRest unread.rest
  debug : cursor.debug = unread.debug
  log : cursor.log = unread.log

/-- A cursor and a list of unread tokens give the same answer and stay together. -/
structure Agrees (tokens : List Value) (actual : Reply TokenCursor) (expected : Reply Unread) :
    Prop where
  answer : actual.1 = expected.1
  reads : Reads tokens actual.2 expected.2

variable {tokens rest : List Value} {cursor : TokenCursor} {unread : Unread}

theorem Reads.debugLog (reads : Reads tokens cursor unread) (message : Value) :
    Reads tokens (cursor.debugLog message) (unread.note message.display?) := by
  have same := reads.debug
  cases on : unread.debug with
  | false =>
      rw [on] at same
      simp only [TokenCursor.debugLog, Unread.note, same, on]
      exact reads
  | true =>
      rw [on] at same
      cases written : message.display? with
      | none =>
          simp only [TokenCursor.debugLog, Unread.note, same, on, written]
          exact reads
      | some line =>
          simp only [TokenCursor.debugLog, Unread.note, same, on, written]
          exact ⟨reads.tokens, reads.rest, rfl, congrArg (line :: ·) reads.log⟩

theorem Reads.skip {item : Value} (reads : Reads tokens cursor unread)
    (head : unread.rest = item :: rest) : Reads tokens cursor.skip { unread with rest } := by
  have stands := reads.rest
  rw [head] at stands
  exact ⟨reads.tokens, stands.skip, reads.debug, reads.log⟩

theorem Reads.agrees_next (reads : Reads tokens cursor unread) :
    Agrees tokens (cursor.serve .next) (unread.serve .next) := by
  have stands := reads.rest
  simp only [TokenCursor.serve, Unread.serve]
  cases head : unread.rest with
  | nil =>
      rw [head] at stands
      rw [TokenCursor.next, stands.atEnd_nil]
      exact ⟨rfl, reads⟩
  | cons item rest =>
      rw [head] at stands
      rw [stands.next]
      exact ⟨rfl, reads.skip head⟩

@[simp] theorem rest_note (unread : Unread) (words? : Option Text) :
    (unread.note words?).rest = unread.rest := by
  unfold Unread.note
  split <;> rfl

theorem wording?_eq_words? (expected seen : Value) :
    Unexpected.wording? expected seen .none = words? expected seen :=
  rfl

theorem raise_eq_refusal_nil (expected : Value) :
    Unexpected.raise expected .none .none .none = refusal expected [] := by
  simp only [Unexpected.raise, Unexpected.report, Value.isNone, if_true, wording?_eq_words?,
    refusal]
  cases words? expected "EOF" with
  | none => rfl
  | some words => rfl

theorem raise_eq_refusal_cons (expected content type line character : Value)
    (rest : List Value) :
    Unexpected.raise expected (.token content type line character) .none .none =
      refusal expected (.token content type line character :: rest) := by
  simp only [Unexpected.raise, Unexpected.report, wording?_eq_words?, refusal]
  cases content.display? with
  | none => rfl
  | some shown =>
      cases words? expected type with
      | none => rfl
      | some words => rfl

theorem Reads.agrees_expect (reads : Reads tokens cursor unread)
    (areTokens : ∀ item ∈ unread.rest, item.IsToken) (type : Value) :
    Agrees tokens (cursor.serve (.expect type)) (unread.serve (.expect type)) := by
  have stands := reads.rest
  simp only [TokenCursor.serve, Unread.serve]
  cases head : unread.rest with
  | nil =>
      rw [head] at stands
      rw [stands.expect_nil, raise_eq_refusal_nil]
      exact ⟨rfl, reads⟩
  | cons item rest =>
      rw [head] at stands
      obtain ⟨content, found, line, character, rfl⟩ := areTokens item (by simp [head])
      cases same : found.same type with
      | false =>
          rw [stands.expect_other same, raise_eq_refusal_cons _ _ _ _ _ rest]
          simp only [isOf, same, Bool.false_eq_true, if_false]
          exact ⟨rfl, reads⟩
      | true =>
          rw [stands.expect_same same]
          simp only [isOf, same, if_true]
          cases type.display? with
          | none => exact ⟨rfl, reads⟩
          | some shown =>
              have logged := reads.debugLog (.str ("matched " ++ shown))
              exact ⟨rfl, logged.skip (by simpa using head)⟩

/-- Skipping drops everything before the first token of a type, and that token too. -/
theorem Reads.agrees_skipPast (reads : Reads tokens cursor unread)
    (areTokens : ∀ item ∈ unread.rest, item.IsToken) (type : Value) :
    Agrees tokens (cursor.serve (.skipPast type)) (unread.serve (.skipPast type)) := by
  rcases unread with ⟨rest, debug, log⟩
  simp only [TokenCursor.serve, Unread.serve]
  -- The cursor passes the unread tokens one by one, until one of them has the type.
  induction rest generalizing cursor with
  | nil =>
      rw [reads.rest.skipPast_nil]
      exact ⟨rfl, reads⟩
  | cons item rest ih =>
      have later : ∀ item ∈ rest, item.IsToken :=
        fun item inside => areTokens item (List.mem_cons_of_mem _ inside)
      have moved := reads.skip rfl
      obtain ⟨content, found, line, character, rfl⟩ := areTokens item (List.mem_cons_self ..)
      cases same : found.same type with
      | false =>
          rw [reads.rest.skipPast_other same, List.dropWhile_cons_of_pos (by simp [isOf, same])]
          exact ih moved later
      | true =>
          rw [reads.rest.skipPast_same same, List.dropWhile_cons_of_neg (by simp [isOf, same])]
          exact ⟨rfl, moved⟩

theorem Reads.agrees_setDebug (reads : Reads tokens cursor unread) (switch : Value) :
    Agrees tokens (cursor.serve (.setDebug switch)) (unread.serve (.setDebug switch)) := by
  cases switch with
  | bool debug => exact ⟨rfl, reads.tokens, reads.rest, rfl, reads.log⟩
  | _ => exact ⟨rfl, reads⟩

/-- What only looks is answered by the head, or by the lack of one. -/
theorem Reads.agrees_looking (reads : Reads tokens cursor unread)
    (areTokens : ∀ item ∈ unread.rest, item.IsToken) {request : Request}
    (looking : request.IsLooking) :
    Agrees tokens (cursor.serve request) (unread.serve request) := by
  have stands := reads.rest
  cases head : unread.rest with
  | nil =>
      rw [head] at stands
      cases looking
      all_goals
        simp only [TokenCursor.serve, Unread.serve, TokenCursor.looksAt, TokenCursor.peekType,
          TokenCursor.position, stands.peek_nil, stands.expectEnd_nil, stands.atEnd_nil, head]
        exact ⟨rfl, reads⟩
  | cons item rest =>
      rw [head] at stands
      obtain ⟨content, type, line, character, rfl⟩ := areTokens item (by simp [head])
      cases looking
      all_goals
        simp only [TokenCursor.serve, Unread.serve, stands.looksAt, TokenCursor.position,
          stands.peek, stands.expectEnd_cons, raise_eq_refusal_cons _ _ _ _ _ rest,
          stands.atEnd_cons, head]
        exact ⟨rfl, reads⟩

/-- A cursor serves every request as the list of unread tokens does. -/
theorem Reads.step (reads : Reads tokens cursor unread)
    (areTokens : ∀ item ∈ unread.rest, item.IsToken) (request : Request) :
    Agrees tokens (cursor.serve request) (unread.serve request) := by
  cases request with
  | peek => exact reads.agrees_looking areTokens .peek
  | looksAt type => exact reads.agrees_looking areTokens (.looksAt type)
  | next => exact reads.agrees_next
  | expect type => exact reads.agrees_expect areTokens type
  | expectEnd => exact reads.agrees_looking areTokens .expectEnd
  | skipPast type => exact reads.agrees_skipPast areTokens type
  | position => exact reads.agrees_looking areTokens .position
  | atEnd => exact reads.agrees_looking areTokens .atEnd
  | remaining =>
      simp only [TokenCursor.serve, Unread.serve, reads.rest.remaining]
      exact ⟨rfl, reads⟩
  | debug =>
      simp only [TokenCursor.serve, Unread.serve, reads.debug]
      exact ⟨rfl, reads⟩
  | setDebug switch => exact reads.agrees_setDebug switch
  | debugLog message => exact ⟨rfl, reads.debugLog message⟩

/-! ## Refusals -/

/--
How a request is refused: nothing is left to read, or what stands first, or the
end, is not what is expected, or the switch is set by no truth value.
-/
inductive Refuses (rest : List Value) : Fault → Prop
  | nothingLeft {fault : ParsingFault} (ended : rest = [])
      (words : fault.message = "No tokens available" ∨
        fault.message = "Expected token but found EOF") :
      Refuses rest (.parsing fault)
  | unexpectedEnd {report : Unexpected} (ended : rest = []) (token : report.token = .none)
      (found : report.found = "EOF") : Refuses rest (.unexpected report)
  | unexpectedToken {report : Unexpected} {content type line character : Value}
      (head : rest.head? = some (.token content type line character))
      (token : report.token = .token content type line character)
      (found : report.found = type) : Refuses rest (.unexpected report)
  | badSwitch : Refuses rest (.badValue .debugFlag)

/-- Something that has to be shown has no text. -/
def Request.Unwritten (request : Request) (rest : List Value) (fault : Fault) : Prop :=
  fault = .badValue .tooLongToWrite ∧ ∃ shown ∈ request.shown rest, ¬shown.HasText

/-- A request is served and drops a first part of the tokens, or is refused and drops nothing. -/
def Settled (unread : Unread) (request : Request) (reply : Reply Unread) : Prop :=
  (∃ answer after, reply = (.ok answer, after) ∧ after.rest <:+ unread.rest) ∨
    ∃ fault, reply = (.error fault, unread) ∧
      (Refuses unread.rest fault ∨ request.Unwritten unread.rest fault)

theorem words?_cases (expected seen : Value) :
    (∃ words, words? expected seen = some words) ∨
      words? expected seen = none ∧ (¬expected.HasText ∨ ¬seen.HasText) := by
  unfold words?
  cases wanted : expected.display? with
  | none => exact .inr ⟨rfl, .inl (Value.not_hasText_iff.mpr wanted)⟩
  | some shown =>
      cases found : seen.display? with
      | none => exact .inr ⟨rfl, .inr (Value.not_hasText_iff.mpr found)⟩
      | some other => exact .inl ⟨_, rfl⟩

/-- A refusal of the end tells of nothing but what was expected. -/
theorem refusal_nil (expected : Value) :
    Refuses [] (refusal expected []) ∨
      refusal expected [] = .badValue .tooLongToWrite ∧ ¬expected.HasText := by
  unfold refusal
  rcases words?_cases expected "EOF" with ⟨words, worded⟩ | ⟨unworded, unwritten⟩
  · rw [worded]
    exact .inl (.unexpectedEnd rfl rfl rfl)
  · rw [unworded]
    exact .inr ⟨rfl, unwritten.resolve_right (not_not_intro (Value.hasText_str _))⟩

theorem refusal_cons (expected content type line character : Value) (rest : List Value) :
    Refuses (.token content type line character :: rest)
        (refusal expected (.token content type line character :: rest)) ∨
      refusal expected (.token content type line character :: rest) =
          .badValue .tooLongToWrite ∧
        ∃ shown ∈ [expected, content, type], ¬shown.HasText := by
  simp only [refusal]
  cases readable : content.display? with
  | none => exact .inr ⟨rfl, content, by simp, Value.not_hasText_iff.mpr readable⟩
  | some shown =>
      rcases words?_cases expected type with ⟨words, worded⟩ | ⟨unworded, unwritten⟩
      · rw [worded]
        exact .inl (.unexpectedToken rfl rfl rfl)
      · rw [unworded]
        refine .inr ⟨rfl, ?_⟩
        rcases unwritten with unwritten | unwritten
        · exact ⟨expected, by simp, unwritten⟩
        · exact ⟨type, by simp, unwritten⟩

theorem settled_nil (debug : Bool) (log : List Text) (request : Request) :
    Settled ⟨[], debug, log⟩ request (Unread.serve ⟨[], debug, log⟩ request) := by
  cases request with
  | peek => exact .inr ⟨_, rfl, .inl (.nothingLeft rfl (.inl rfl))⟩
  | looksAt type => exact .inr ⟨_, rfl, .inl (.nothingLeft rfl (.inl rfl))⟩
  | next => exact .inr ⟨_, rfl, .inl (.nothingLeft rfl (.inr rfl))⟩
  | expect type =>
      refine .inr ⟨_, rfl, (refusal_nil type).imp_right ?_⟩
      exact fun ⟨same, unwritten⟩ => ⟨same, type, List.mem_cons_self .., unwritten⟩
  | position => exact .inr ⟨_, rfl, .inl (.nothingLeft rfl (.inl rfl))⟩
  | setDebug switch =>
      cases switch with
      | bool debug => exact .inl ⟨_, _, rfl, List.suffix_refl _⟩
      | _ => exact .inr ⟨_, rfl, .inl .badSwitch⟩
  | debugLog message => exact .inl ⟨_, _, rfl, by simp⟩
  | _ => exact .inl ⟨_, _, rfl, List.suffix_refl _⟩

theorem settled_cons (content type line character : Value) (rest : List Value) (debug : Bool)
    (log : List Text) (request : Request) :
    Settled ⟨.token content type line character :: rest, debug, log⟩ request
      (Unread.serve ⟨.token content type line character :: rest, debug, log⟩ request) := by
  cases request with
  | next => exact .inl ⟨_, _, rfl, List.suffix_cons _ _⟩
  | expect wanted =>
      simp only [Unread.serve]
      split
      · split
        · exact .inl ⟨_, _, rfl, List.suffix_cons _ _⟩
        · rename_i unwritten
          exact .inr ⟨_, rfl, .inr
            ⟨rfl, wanted, List.mem_cons_self .., Value.not_hasText_iff.mpr unwritten⟩⟩
      · exact .inr ⟨_, rfl, refusal_cons wanted content type line character rest⟩
  | expectEnd =>
      refine .inr ⟨_, rfl, (refusal_cons "EOF" content type line character rest).imp_right ?_⟩
      rintro ⟨same, shown, inside, unwritten⟩
      rcases List.mem_cons.mp inside with rfl | inside
      · exact absurd (Value.hasText_str _) unwritten
      · exact ⟨same, shown, inside, unwritten⟩
  | skipPast type =>
      exact .inl ⟨_, _, rfl, (List.tail_suffix _).trans (List.dropWhile_suffix _)⟩
  | setDebug switch =>
      cases switch with
      | bool debug => exact .inl ⟨_, _, rfl, List.suffix_refl _⟩
      | _ => exact .inr ⟨_, rfl, .inl .badSwitch⟩
  | debugLog message => exact .inl ⟨_, _, rfl, by simp⟩
  | _ => exact .inl ⟨_, _, rfl, List.suffix_refl _⟩

theorem settled_serve (areTokens : ∀ item ∈ unread.rest, item.IsToken) (request : Request) :
    Settled unread request (unread.serve request) := by
  rcases unread with ⟨rest, debug, log⟩
  cases rest with
  | nil => exact settled_nil debug log request
  | cons item rest =>
      obtain ⟨content, type, line, character, rfl⟩ := areTokens item (List.mem_cons_self ..)
      exact settled_cons content type line character rest debug log request

/-- No request puts a token back. -/
theorem Settled.suffix {request : Request} {reply : Reply Unread}
    (settled : Settled unread request reply) :
    reply.2.rest <:+ unread.rest := by
  rcases settled with ⟨answer, after, rfl, suffix⟩ | ⟨fault, rfl, _⟩
  · exact suffix
  · exact List.suffix_refl _

theorem Reads.suffix (reads : Reads tokens cursor unread) : unread.rest <:+ tokens := by
  obtain ⟨passed, whole, _⟩ := reads.rest
  exact ⟨passed, whole.symm.trans reads.tokens⟩

theorem Reads.index_eq (reads : Reads tokens cursor unread) :
    cursor.index = tokens.length - unread.rest.length := by
  have counted := reads.rest.remaining
  rw [TokenCursor.remaining, reads.tokens] at counted
  omega

theorem Reads.rest_eq_drop (reads : Reads tokens cursor unread) :
    unread.rest = tokens.drop cursor.index.toNat := by
  have index := reads.index_eq
  obtain ⟨passed, rfl⟩ := reads.suffix
  have read : cursor.index.toNat = passed.length := by
    rw [List.length_append] at index
    omega
  rw [read, List.drop_left]

theorem Reads.atEnd_iff (reads : Reads tokens cursor unread) :
    cursor.atEnd = true ↔ unread.rest = [] := by
  have index := reads.index_eq
  have short := reads.suffix.length_le
  rw [TokenCursor.atEnd, decide_eq_true_iff, reads.tokens, ← List.length_eq_zero_iff]
  omega

/-- A cursor serves requests in turn as the list of unread tokens does. -/
theorem Reads.run (reads : Reads tokens cursor unread)
    (areTokens : ∀ item ∈ tokens, item.IsToken) (requests : List Request) :
    (serveAll serve cursor requests).1 = (serveAll Unread.serve unread requests).1 ∧
      Reads tokens (serveAll serve cursor requests).2
        (serveAll Unread.serve unread requests).2 := by
  induction requests generalizing cursor unread with
  | nil => exact ⟨rfl, reads⟩
  | cons request more ih =>
      obtain ⟨answer, after⟩ :=
        reads.step (fun item inside => areTokens item (reads.suffix.subset inside)) request
      obtain ⟨answers, last⟩ := ih after
      constructor
      · simp only [serveAll, answer, answers]
      · exact last

/-- A request never moves a cursor back, and not at all if it is refused. -/
theorem Reads.moves (reads : Reads tokens cursor unread)
    (areTokens : ∀ item ∈ tokens, item.IsToken) (request : Request) :
    cursor.index ≤ (cursor.serve request).2.index ∧
      ∀ fault, (cursor.serve request).1 = .error fault →
        (Refuses unread.rest fault ∨ request.Unwritten unread.rest fault) ∧
          (cursor.serve request).2.index = cursor.index := by
  have unreadTokens : ∀ item ∈ unread.rest, item.IsToken :=
    fun item inside => areTokens item (reads.suffix.subset inside)
  obtain ⟨answer, after⟩ := reads.step unreadTokens request
  have settled := settled_serve unreadTokens request
  have shorter := settled.suffix.length_le
  have before := reads.index_eq
  have behind := after.index_eq
  constructor
  · omega
  · intro fault failed
    rw [answer] at failed
    rcases settled with ⟨value, next, served, _⟩ | ⟨refused, served, refuses⟩
    · rw [served] at failed
      cases failed
    · rw [served] at failed behind
      cases failed
      exact ⟨refuses, behind.trans before.symm⟩

theorem reads_start (tokens : List Value) (debug : Bool) :
    Reads tokens { tokens := tokens, debug := debug } ⟨tokens, debug, []⟩ :=
  ⟨rfl, hasRest_start tokens debug, rfl, rfl⟩

/--
A cursor over tokens answers any requests as the list of its unread tokens does.
That list is what the index leaves of the tokens, which never change.  Whatever
is asked next does not move the cursor back, and a request is refused only at the
end, by what stands first, or by its switch, or if something that would have to be
shown has no text, which leaves the cursor where it is.
-/
theorem serves_as_list (tokens : List Value) (areTokens : ∀ item ∈ tokens, item.IsToken)
    (sequence : Value) (given : sequence = .list tokens ∨ sequence = .tuple tokens)
    (debug : Bool) :
    ∃ start, create sequence (.bool debug) = .ok start ∧
      ∀ requests, ∃ answers cursor unread,
        serveAll serve start requests = (answers, cursor) ∧
        serveAll Unread.serve ⟨tokens, debug, []⟩ requests = (answers, unread) ∧
        cursor.tokens = tokens ∧ 0 ≤ cursor.index ∧ cursor.index ≤ tokens.length ∧
        unread.rest = tokens.drop cursor.index.toNat ∧
        cursor.remaining = unread.rest.length ∧ (cursor.atEnd = true ↔ unread.rest = []) ∧
        ∀ request, cursor.index ≤ (cursor.serve request).2.index ∧
          ∀ fault, (cursor.serve request).1 = .error fault →
            (Refuses unread.rest fault ∨
              fault = .badValue .tooLongToWrite ∧
                ∃ shown ∈ request.shown unread.rest, ¬shown.HasText) ∧
            (cursor.serve request).2.index = cursor.index := by
  have created : create sequence (.bool debug) = .ok { tokens := tokens, debug := debug } := by
    rcases given with rfl | rfl
    · rfl
    · rfl
  refine ⟨_, created, ?_⟩
  intro requests
  obtain ⟨answers, reads⟩ := (reads_start tokens debug).run areTokens requests
  have index := reads.index_eq
  have short := reads.suffix.length_le
  refine ⟨_, _, _, rfl, Prod.ext answers.symm rfl, reads.tokens, ?_, ?_, reads.rest_eq_drop,
    reads.rest.remaining, reads.atEnd_iff, reads.moves areTokens⟩
  · omega
  · omega

/-- A comma is missed, skipped to and passed; then the end is missed too. -/
theorem serves_as_list_recovering :
    (∀ item ∈ [.token (.int 1) "integer" .none .none, .token "," "comma" .none .none],
      Value.IsToken item) ∧
    ∃ start, create (.tuple [.token (.int 1) "integer" .none .none,
        .token "," "comma" .none .none]) (.bool true) = .ok start ∧
      (serveAll serve start [.expect "comma", .skipPast "comma", .next]).1 =
        [.error (refusal "comma" [.token (.int 1) "integer" .none .none]), .ok .none,
          .error (.parsing .nothingToTake)] ∧
      (serveAll serve start [.expect "comma", .skipPast "comma", .next]).2.index ≤ 2 := by
  have areTokens : ∀ item ∈ [Value.token (.int 1) "integer" .none .none,
      .token "," "comma" .none .none], item.IsToken := by
    simp [Value.IsToken]
  obtain ⟨start, created, served⟩ := serves_as_list _ areTokens _ (.inr rfl) true
  obtain ⟨answers, cursor, unread, run, expected, _, _, inside, _⟩ :=
    served [.expect "comma", .skipPast "comma", .next]
  refine ⟨areTokens, start, created, ?_, ?_⟩
  · rw [run]
    exact (congrArg Prod.fst expected).symm
  · rw [run]
    exact inside

end TokenCursor

end Lexwork
