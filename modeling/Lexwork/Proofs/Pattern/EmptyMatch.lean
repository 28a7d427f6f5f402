import Lexwork.Proofs.Lexer.Registry
import Lexwork.Proofs.Regex.Plain

/-!
# When a registration warns

A registration warns if its expression matches the empty text within the empty text.
For a plain pattern that is no mere symptom: the expression then is one that matches the
empty text somewhere, and if nothing is said it does so nowhere.  As an empty match is no
match, a definition that came without a warning declines only where its expression finds
nothing.
-/

namespace Lexwork

open Regex

namespace Definition

variable {definition : Definition} {expression : Regex} {text piece : Text} {offset : Int}

theorem attemptAt_regex (given : definition.matcher = .regex expression) (text : Text)
    (offset : Int) :
    definition.matcher.attemptAt text offset =
      .ok (expression.resultAt (.ofOffset text offset.toNat)) := by
  rw [given, Matcher.attemptAt]

theorem attemptAt_eq_success_iff (given : definition.matcher = .regex expression) :
    definition.matcher.attemptAt text offset = .ok (.success piece) ↔
      expression.node.matchAt (.ofOffset text offset.toNat) = some piece := by
  rw [attemptAt_regex given, resultAt]
  cases expression.node.matchAt (.ofOffset text offset.toNat) with
  | none => simp [Value.success, Value.failure]
  | some found => simp [Value.success]

/-- What was consumed is declined only if it is empty. -/
theorem judge_success_eq_none {name : Text} {tracker : Tracker} {stands : Text → Bool}
    (declined : judge name tracker stands (.success piece) = .ok none) : piece = [] := by
  rw [Value.success, judge, if_neg (by decide)] at declined
  split at declined
  · split at declined
    · assumption
    · cases declined
  · cases declined

/-- An expression that is never empty is declined exactly where it matches nothing. -/
theorem matchAt_eq_none_iff (given : definition.matcher = .regex expression)
    (never : expression.node.matchAt (.ofOffset text offset.toNat) ≠ some []) (tracker : Tracker) :
    definition.matchAt text offset tracker = .ok none ↔
      definition.matcher.attemptAt text offset = .ok .failure := by
  rw [matchAt, attemptAt_regex given, resultAt]
  cases answer : expression.node.matchAt (.ofOffset text offset.toNat) with
  | none => exact ⟨fun _ => rfl, fun _ => rfl⟩
  | some found =>
      constructor
      · intro declined
        have judged : judge definition.name tracker (text.standsAt · offset) (.success found) =
            .ok none := declined
        exact absurd (answer.trans (congrArg some (judge_success_eq_none judged))) never
      · intro failed
        cases failed

end Definition

namespace Registration

variable {registration : Registration} {definition : Definition} {expression : Regex}

/-- A registration appends the definition it describes, and tells of nothing else. -/
theorem enter_of_describes (describes : registration.Describes definition) (lexer : Lexer) :
    registration.enter lexer =
      .ok (lexer.append definition, Lexer.emptyMatchNotice definition ++
        [.registered lexer.languageName definition.name
          (lexer.append definition).patterns.length]) := by
  obtain ⟨draft, has, described⟩ := describes
  obtain ⟨proposal, proposed, valid⟩ := bind_eq_ok_iff.mp (Draft.define_eq_ok_iff.mpr described)
  cases registration with
  | other kind => cases has
  | definition given =>
      cases has
      rw [enter, proposed, Except.bind, Lexer.register, valid]
      rfl
  | parts name pattern consume ignore interpret =>
      rw [enter, Lexer.add, ofEither_of_draft has, proposed, Except.bind, Lexer.register, valid]
      rfl

theorem exists_isWarning_iff (given : definition.matcher = .regex expression)
    (language name : Text) (priority : Nat) :
    (∃ notice ∈ Lexer.emptyMatchNotice definition ++ [.registered language name priority],
        notice.isWarning = true) ↔
      expression.matchesEmpty = true := by
  rw [Lexer.emptyMatchNotice, given]
  cases empty : expression.matchesEmpty <;> simp [Notice.isWarning, empty]

/--
A registration by a plain pattern, read with any options, is accepted.  It warns
exactly if there are a text and an offset in it at which the expression matches the
empty text.  If it does not warn, the definition declines a place only if its
expression matches nothing there.
-/
theorem enter_warns_iff {pattern : Text} {flags : Flags}
    (read : Regex.compile pattern flags = .ok expression)
    (plain : isPlainPattern flags pattern = true) (describes : registration.Describes definition)
    (given : definition.matcher = .regex expression) (lexer : Lexer) :
    ∃ notices, registration.enter lexer = .ok (lexer.append definition, notices) ∧
      ((∃ notice ∈ notices, notice.isWarning = true) ↔
        ∃ text : Text, ∃ pos ≤ text.length,
          definition.matcher.attemptAt text pos = .ok (.success [])) ∧
      ((∀ notice ∈ notices, notice.isWarning = false) →
        ∀ text offset tracker, definition.matchAt text offset tracker = .ok none ↔
          definition.matcher.attemptAt text offset = .ok .failure) := by
  have simple := isPlain_of_compile plain read
  refine ⟨_, enter_of_describes describes lexer, ?_, ?_⟩
  · rw [exists_isWarning_iff given]
    constructor
    · intro empty
      refine ⟨[], 0, Nat.le_refl 0, (Definition.attemptAt_eq_success_iff given).mpr ?_⟩
      exact matchAt_start_nil empty
    · rintro ⟨text, pos, _, consumed⟩
      exact simple.isSome_matchAt_nil ((Definition.attemptAt_eq_success_iff given).mp consumed)
  · intro silent text offset tracker
    refine Definition.matchAt_eq_none_iff given (fun empty => ?_) tracker
    obtain ⟨notice, among, warns⟩ :=
      (exists_isWarning_iff given _ _ _).mpr (simple.isSome_matchAt_nil empty)
    rw [silent notice among] at warns
    cases warns

/-- A loop that has to run once, over branches of which one may be left out. -/
def loopedExpression : Regex where
  pattern := "(?i)(?:[ab]|(c*?))+?"
  flags := {}
  node :=
    .seq
      (.loop true 1 none
        (.alt (.seq (.set ⟨false, true, [.single 97, .single 98]⟩) .empty)
          (.seq (.capture 1 (.seq (.loop true 0 none (.set ⟨false, true, [.single 99]⟩)) .empty))
            .empty)))
      .empty

def loopedDefinition : Definition where
  name := "letters"
  matcher := .regex loopedExpression
  ignore := false
  interpret := none
  name_ne_nil := by decide

/-- The loop is required to run, and yet matches the empty text between two other letters. -/
theorem enter_warns_iff_looped :
    let registration : Registration :=
      .parts "letters" (.text loopedExpression.pattern) .absent (.bool false) .absent
    let lexer : Lexer := ⟨"toy".toList, [], by decide⟩
    Regex.compile loopedExpression.pattern {} = .ok loopedExpression ∧
      isPlainPattern {} loopedExpression.pattern = true ∧
      registration.Describes loopedDefinition ∧
      loopedDefinition.matcher = .regex loopedExpression ∧
      ∃ notices, registration.enter lexer = .ok (lexer.append loopedDefinition, notices) ∧
        ∃ notice ∈ notices, notice.isWarning = true := by
  intro registration lexer
  have read : Regex.compile loopedExpression.pattern {} = .ok loopedExpression := rfl
  have plain : isPlainPattern {} loopedExpression.pattern = true := rfl
  have describes : registration.Describes loopedDefinition :=
    ⟨_, rfl, ⟨rfl, .text read, rfl, .absent⟩⟩
  have consumed : loopedDefinition.matcher.attemptAt "zz" 1 = .ok (.success []) := rfl
  obtain ⟨notices, entered, warns, _⟩ := enter_warns_iff read plain describes rfl lexer
  exact ⟨read, plain, describes, rfl, notices, entered, warns.mpr ⟨"zz", 1, by decide, consumed⟩⟩

end Registration

end Lexwork
