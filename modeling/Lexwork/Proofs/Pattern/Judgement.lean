import Lexwork.Proofs.Lexer.Chain
import Lexwork.Proofs.Regex.Progress
import Lexwork.Proofs.Value.Rendering

/-!
# Judging what a matcher reports

What a matcher reports is judged before it counts as a match.  Failures and empty pieces
are declined, and a piece that starts the rest of the text is a match.  Anything else is
held against the matcher.  An expression reports nothing else, because every match of it
spans some characters from its place on; so only consumers are ever blamed.

A blame quotes what was reported.  If that has no text, there is a failure all the same,
but it tells of the missing text and not of the consumer.
-/

namespace Lexwork

namespace Definition

/--
A report that a matcher is blamed for: it is no consume result, or one of a successful
attempt whose piece is no text that starts the rest.
-/
def Misreports (rest : Text) (value : Value) : Prop :=
  (∀ success consumed content, value ≠ .result success consumed content) ∨
    ∃ success consumed content, value = .result success consumed content ∧
      success.truthy = true ∧ ∀ piece, consumed = .str piece → ¬ piece <+: rest

/-- A report of a successful attempt that consumed some text. -/
def Succeeds (value : Value) : Prop :=
  ∃ success piece content, value = .result success (.str piece) content ∧
    success.truthy = true ∧ piece ≠ []

/-- The part of a report that its blame quotes: what a success claims, or all of another value. -/
def quoted : Value → Value
  | .result _ consumed _ => consumed
  | other => other

/-- The blame of a definition for a report, with the quoted part as a text. -/
def accusation (definition : Definition) (tracker : Tracker) (value : Value) (shown : Text) :
    LexingFault :=
  match value with
  | .result .. => .notPrefix definition.name tracker.line tracker.character shown
  | _ => .notResult definition.name shown

/-- The failure for a report: the blame, if there is a text to quote. -/
def blame (definition : Definition) (tracker : Tracker) (value : Value) : Fault :=
  .showing (quoted value).literal? fun shown => .lexing (definition.accusation tracker value shown)

inductive Judged (definition : Definition) (tracker : Tracker) (rest : Text) :
    Value → Except Fault (Option Match) → Prop
  | failed {success consumed content : Value} (fails : success.truthy = false) :
      Judged definition tracker rest (.result success consumed content) (.ok none)
  | empty {success content : Value} (succeeds : success.truthy = true) :
      Judged definition tracker rest (.result success (.str []) content) (.ok none)
  | matched {success content : Value} {piece : Text} (succeeds : success.truthy = true)
      (starts : piece <+: rest) (nonempty : piece ≠ []) :
      Judged definition tracker rest (.result success (.str piece) content)
        (.ok (some ⟨piece, success, content⟩))
  | blamed {value : Value} (misreports : Misreports rest value) :
      Judged definition tracker rest value (.error (definition.blame tracker value))

variable {definition : Definition} {tracker : Tracker} {rest : Text} {value : Value}

theorem blame_of_noResult (definition : Definition) (tracker : Tracker)
    (other : ∀ success consumed content, value ≠ .result success consumed content) :
    definition.blame tracker value =
      .showing value.literal? fun shown => .lexing (.notResult definition.name shown) := by
  cases value with
  | result success consumed content => exact absurd rfl (other success consumed content)
  | _ => rfl

/-- Every report is judged in one of these ways. -/
theorem judged_judge (definition : Definition) (tracker : Tracker) (rest : Text) (value : Value) :
    definition.Judged tracker rest value
      (judge definition.name tracker (·.isPrefixOf rest) value) := by
  unfold judge
  split
  · rename_i success consumed content
    split
    · rename_i fails
      exact .failed (by simpa using fails)
    · rename_i holds
      have succeeds : success.truthy = true := by simpa using holds
      split
      · rename_i piece
        split
        · rename_i stands
          split
          · rename_i empty
            rw [empty]
            exact .empty succeeds
          · rename_i nonempty
            exact .matched succeeds (List.isPrefixOf_iff_prefix.mp stands) nonempty
        · rename_i elsewhere
          refine .blamed (.inr ⟨success, .str piece, content, rfl, succeeds, ?_⟩)
          rintro _ ⟨⟩ starts
          exact elsewhere (List.isPrefixOf_iff_prefix.mpr starts)
      · rename_i other
        refine .blamed (.inr ⟨success, consumed, content, rfl, succeeds, ?_⟩)
        exact fun piece same => absurd same (other piece)
  · rename_i other
    rw [← blame_of_noResult definition tracker other]
    exact .blamed (.inl other)

/-- A consume result is held against its matcher only if the attempt succeeded elsewhere. -/
theorem Misreports.of_result {success consumed content : Value}
    (misreports : Misreports rest (.result success consumed content)) :
    success.truthy = true ∧ ∀ piece, consumed = .str piece → ¬ piece <+: rest := by
  rcases misreports with other | ⟨_, _, _, ⟨⟩, succeeds, elsewhere⟩
  · exact absurd rfl (other success consumed content)
  · exact ⟨succeeds, elsewhere⟩

/-- A matcher is blamed for its misreports and for nothing else. -/
theorem Judged.error_iff {outcome : Except Fault (Option Match)}
    (judged : definition.Judged tracker rest value outcome) (fault : Fault) :
    outcome = .error fault ↔ Misreports rest value ∧ fault = definition.blame tracker value := by
  cases judged with
  | failed fails =>
      refine ⟨nofun, fun ⟨misreports, _⟩ => ?_⟩
      exact absurd misreports.of_result.1 (Bool.eq_false_iff.mp fails)
  | empty succeeds =>
      refine ⟨nofun, fun ⟨misreports, _⟩ => ?_⟩
      exact absurd List.nil_prefix (misreports.of_result.2 [] rfl)
  | matched succeeds starts nonempty =>
      refine ⟨nofun, fun ⟨misreports, _⟩ => ?_⟩
      exact absurd starts (misreports.of_result.2 _ rfl)
  | blamed misreports =>
      constructor
      · rintro ⟨⟩
        exact ⟨misreports, rfl⟩
      · rintro ⟨_, rfl⟩
        rfl

/-- Where nobody is blamed, there is a match exactly for a success with some text. -/
theorem Judged.isSome_iff {outcome : Option Match}
    (judged : definition.Judged tracker rest value (.ok outcome)) :
    outcome.isSome = true ↔ Succeeds value := by
  cases judged with
  | failed fails =>
      refine ⟨nofun, ?_⟩
      rintro ⟨_, _, _, ⟨⟩, succeeds, _⟩
      exact absurd succeeds (Bool.eq_false_iff.mp fails)
  | empty succeeds =>
      refine ⟨nofun, ?_⟩
      rintro ⟨_, _, _, ⟨⟩, _, nonempty⟩
      exact absurd rfl nonempty
  | matched succeeds starts nonempty =>
      exact ⟨fun _ => ⟨_, _, _, rfl, succeeds, nonempty⟩, fun _ => rfl⟩

theorem Judged.found {found : Match}
    (judged : definition.Judged tracker rest value (.ok (some found))) :
    found.result = value ∧ found.consumed <+: rest := by
  cases judged with
  | matched succeeds starts nonempty => exact ⟨rfl, starts⟩

variable {text : Text} {pos : Nat}

theorem matchAt_eq_bind (definition : Definition) (inside : pos ≤ text.length)
    (tracker : Tracker) :
    definition.matchAt text pos tracker =
      (definition.matcher.attemptAt text pos).bind
        (judge definition.name tracker (·.isPrefixOf (text.drop pos))) := by
  have stands : (text.standsAt · (pos : Int)) = (·.isPrefixOf (text.drop pos)) :=
    funext fun _ => Text.standsAt_natCast inside
  rw [matchAt, stands]

theorem judged_matchAt (definition : Definition) (inside : pos ≤ text.length) (tracker : Tracker)
    (reported : definition.matcher.attemptAt text pos = .ok value) :
    definition.Judged tracker (text.drop pos) value (definition.matchAt text pos tracker) := by
  rw [matchAt_eq_bind definition inside, reported]
  exact judged_judge definition tracker (text.drop pos) value

theorem exists_reported {offset : Int} {outcome : Option Match}
    (matched : definition.matchAt text offset tracker = .ok outcome) :
    ∃ value, definition.matcher.attemptAt text offset = .ok value := by
  cases reported : definition.matcher.attemptAt text offset with
  | ok value => exact ⟨value, rfl⟩
  | error fault =>
      rw [matchAt, reported] at matched
      cases matched

/-- An expression reports a failure, or a success with a start of the rest. -/
theorem not_misreports_resultAt (expression : Regex) (place : Place) :
    ¬ Misreports place.rest (expression.resultAt place) := by
  intro misreports
  unfold Regex.resultAt at misreports
  split at misreports
  · rename_i piece found
    obtain ⟨n, _, rfl, _⟩ := Regex.exists_take_of_matchAt found
    exact misreports.of_result.2 _ rfl (List.take_prefix n place.rest)
  · exact Bool.noConfusion misreports.of_result.1

/--
At an offset of a text, an expression is never blamed.  A consumer that returns fails
exactly for reporting something other than a consume result, or a success with something
other than a start of the rest: it is blamed with the report quoted, unless the report has
no text.  If nothing fails, there is a match exactly if the matcher reported a success with
some text; the match is what was reported, and consumed the characters of the text from the
offset on.
-/
theorem matchAt_blames_consumers (definition : Definition) (inside : pos ≤ text.length)
    (tracker : Tracker) :
    (∀ expression, definition.matcher = .regex expression →
      ∃ outcome, definition.matchAt text pos tracker = .ok outcome) ∧
    (∀ consume value, definition.matcher = .consumer consume →
      consume (text.drop pos) = .ok value →
      ∀ fault, definition.matchAt text pos tracker = .error fault ↔
        Misreports (text.drop pos) value ∧
          ((∃ shown, (quoted value).literal? = some shown ∧
              fault = .lexing (definition.accusation tracker value shown)) ∨
            (quoted value).literal? = none ∧ fault = .badValue .tooLongToWrite)) ∧
    ∀ outcome, definition.matchAt text pos tracker = .ok outcome →
      ∃ value, definition.matcher.attemptAt text pos = .ok value ∧
        (outcome.isSome = true ↔ Succeeds value) ∧
        ∀ found, outcome = some found → found.result = value ∧
          found.consumed = text.slice pos (pos + found.consumed.length) := by
  refine ⟨?_, ?_, ?_⟩
  · intro expression given
    have reported : definition.matcher.attemptAt text pos =
        .ok (expression.resultAt (.ofOffset text pos)) := by
      rw [given]
      rfl
    have judged := judged_matchAt definition inside tracker reported
    cases answer : definition.matchAt text pos tracker with
    | ok outcome => exact ⟨outcome, rfl⟩
    | error fault =>
        obtain ⟨misreports, _⟩ := (judged.error_iff fault).mp answer
        rw [← Place.rest_ofOffset] at misreports
        exact absurd misreports (not_misreports_resultAt expression _)
  · intro consume value given returned fault
    have reported : definition.matcher.attemptAt text pos = .ok value := by
      rw [given, Matcher.attemptAt, Text.dropFrom_natCast]
      exact returned
    rw [(judged_matchAt definition inside tracker reported).error_iff, blame,
      Fault.eq_showing_iff]
  · intro outcome matched
    obtain ⟨value, reported⟩ := exists_reported matched
    have judged := judged_matchAt definition inside tracker reported
    rw [matched] at judged
    refine ⟨value, reported, judged.isSome_iff, ?_⟩
    rintro found rfl
    obtain ⟨same, starts⟩ := judged.found
    exact ⟨same, (Text.slice_of_prefix starts).symm⟩

/-- Any number of one letter. -/
def lettersExpression : Regex where
  pattern := "a*"
  flags := {}
  node := .seq (.loop false 0 none (.set ⟨false, false, [.single 97]⟩)) .empty

def lettersDefinition : Definition where
  name := "run"
  matcher := .regex lettersExpression
  ignore := false
  interpret := none
  name_ne_nil := by decide

/-- A definition by a consumer that claims the letter, whatever text it is given. -/
def claimingDefinition : Definition where
  name := "letter"
  matcher := .consumer fun _ => .ok (.success ['a'])
  ignore := false
  interpret := none
  name_ne_nil := by decide

/-- In front of another letter the expression matches nothing, but the consumer is blamed. -/
theorem matchAt_blames_consumers_claiming :
    let text : Text := ['b', 'a']
    0 ≤ text.length ∧ lettersDefinition.matcher = .regex lettersExpression ∧
      (∃ outcome, lettersDefinition.matchAt text (0 : Nat) {} = .ok outcome) ∧
      Misreports text (.success ['a']) ∧
      claimingDefinition.matchAt text (0 : Nat) {} =
        .error (.lexing (.notPrefix "letter" 1 1 "'a'")) ∧
      1 ≤ text.length ∧
      claimingDefinition.matchAt text (1 : Nat) {} = .ok (some ⟨['a'], .bool true, .none⟩) ∧
      ['a'] = text.slice 1 2 := by
  intro text
  have first : 0 ≤ text.length := Nat.zero_le _
  have second : 1 ≤ text.length := by decide
  have misreports : Misreports text (.success ['a']) := by
    refine .inr ⟨_, _, _, rfl, rfl, ?_⟩
    rintro _ ⟨⟩ starts
    cases (List.cons_prefix_cons.mp starts).1
  have matched : claimingDefinition.matchAt text (1 : Nat) {} =
      .ok (some ⟨['a'], .bool true, .none⟩) := rfl
  obtain ⟨silent, -, -⟩ := matchAt_blames_consumers lettersDefinition first {}
  obtain ⟨-, blames, -⟩ := matchAt_blames_consumers claimingDefinition first {}
  obtain ⟨-, -, accepts⟩ := matchAt_blames_consumers claimingDefinition second {}
  obtain ⟨value, -, -, found⟩ := accepts _ matched
  exact ⟨first, rfl, silent _ rfl, misreports,
    (blames _ _ rfl rfl _).mpr ⟨misreports, .inl ⟨_, rfl, rfl⟩⟩, second, matched,
    (found _ rfl).2⟩

/-- A definition by a consumer that reports a number too long to be written. -/
def countingDefinition : Definition where
  name := "count"
  matcher := .consumer fun _ => .ok .longInteger
  ignore := false
  interpret := none
  name_ne_nil := by decide

/-- A number is no consume result, but a consumer that reports a long one is not blamed. -/
theorem matchAt_blames_nobody :
    countingDefinition.matcher.attemptAt ['a'] (0 : Nat) = .ok .longInteger ∧
      Misreports ['a'] .longInteger ∧
      countingDefinition.matchAt ['a'] (0 : Nat) {} = .error (.badValue .tooLongToWrite) ∧
      ∀ fault, countingDefinition.matchAt ['a'] (0 : Nat) {} ≠ .error (.lexing fault) := by
  have reported : countingDefinition.matcher.attemptAt ['a'] (0 : Nat) = .ok .longInteger := rfl
  have misreports : Misreports ['a'] .longInteger := .inl fun _ _ _ => nofun
  have failed : countingDefinition.matchAt ['a'] (0 : Nat) {} =
      .error (.badValue .tooLongToWrite) :=
    ((judged_matchAt countingDefinition (Nat.zero_le _) {} reported).error_iff _).mpr
      ⟨misreports, Fault.eq_showing_iff.mpr (.inr ⟨Value.literal?_longInteger, rfl⟩)⟩
  refine ⟨reported, misreports, failed, fun fault blamed => ?_⟩
  rw [failed] at blamed
  cases blamed

end Definition

end Lexwork
