import Mathlib.Data.List.Forall2
import Lexwork.Proofs.Lexer.Chain
import Lexwork.Proofs.Regex.Forward

/-!
# Consumers in place of expressions

A lexer asks a definition for its match and uses that by the definition's name, flag and
interpreter; it cannot tell definitions apart that agree in all of these.  A consumer
that runs an expression on the text it is given reports what the expression reports,
provided that the expression never looks back, since the consumer cannot.  So
expressions of that kind may be handed over to consumers, as many of them and wherever
they stand in the order of priority: the lexer cuts every text as before.
-/

namespace Lexwork

namespace Definition

/-- Definitions that match alike at every place and put a match to the same use. -/
structure ActsAs (definition other : Definition) : Prop where
  name : other.name = definition.name
  ignore : other.ignore = definition.ignore
  interpret : other.interpret = definition.interpret
  matching : ∀ place tracker, other.matchHere place tracker = definition.matchHere place tracker

variable {definition other : Definition}

theorem ActsAs.refl (definition : Definition) : definition.ActsAs definition :=
  ⟨rfl, rfl, rfl, fun _ _ => rfl⟩

theorem ActsAs.contentOf (acts : definition.ActsAs other) (found : Match) :
    other.contentOf found = definition.contentOf found := by
  rw [Definition.contentOf, Definition.contentOf, acts.interpret]

theorem ActsAs.tokensOf (acts : definition.ActsAs other) (content : Value) (tracker : Tracker) :
    Lexer.tokensOf other content tracker = Lexer.tokensOf definition content tracker := by
  rw [Lexer.tokensOf, Lexer.tokensOf, acts.ignore, acts.name]

end Definition

namespace Lexer

variable {definitions others : List Definition}

/-- Asking the definitions of two lists in turn ends alike, with winners that act alike. -/
inductive SameWinner : Except Fault (Option (Definition × Match)) →
    Except Fault (Option (Definition × Match)) → Prop
  | failed (fault : Fault) : SameWinner (.error fault) (.error fault)
  | nobody : SameWinner (.ok none) (.ok none)
  | winner {definition other : Definition} (acts : definition.ActsAs other) (found : Match) :
      SameWinner (.ok (some (definition, found))) (.ok (some (other, found)))

theorem sameWinner_firstMatch (act : List.Forall₂ Definition.ActsAs definitions others)
    (place : Place) (tracker : Tracker) :
    SameWinner (firstMatch place tracker definitions) (firstMatch place tracker others) := by
  induction act with
  | nil => exact .nobody
  | @cons definition other _ _ acts _ ih =>
      simp only [firstMatch, acts.matching]
      cases definition.matchHere place tracker with
      | error fault => exact .failed fault
      | ok found =>
          cases found with
          | none => exact ih
          | some found => exact .winner acts found

/-- Lists of definitions that act alike cut a text alike. -/
theorem scan_eq_of_actsAs (act : List.Forall₂ Definition.ActsAs definitions others)
    (place : Place) (tracker : Tracker) :
    scan others place tracker = scan definitions place tracker := by
  -- The induction is on the text left, of which each round takes a part.
  induction left : place.rest.length using Nat.strongRecOn generalizing place tracker with
  | ind n ih =>
      subst left
      by_cases ended : place.rest = []
      · rw [scan, scan, if_pos ended, if_pos ended]
      · rw [scan_eq_of_rest ended, scan_eq_of_rest ended]
        have same := sameWinner_firstMatch act place tracker
        generalize first : firstMatch place tracker definitions = answer at same
        generalize firstMatch place tracker others = answer' at same
        cases same with
        | failed fault => rfl
        | nobody => rfl
        | @winner definition other acts found =>
            have shorter := ih _ (rest_advance_lt first) (place.advance found.consumed.length)
              (tracker.consume found.consumed) rfl
            simp only [acts.contentOf, acts.tokensOf, shorter]

theorem isEmpty_eq_of_actsAs (act : List.Forall₂ Definition.ActsAs definitions others) :
    others.isEmpty = definitions.isEmpty := by
  cases act with
  | nil => rfl
  | cons _ _ => rfl

theorem tokenize_eq_of_actsAs {lexer other : Lexer}
    (act : List.Forall₂ Definition.ActsAs lexer.patterns other.patterns) (content : Value) :
    other.tokenize content = lexer.tokenize content := by
  cases content with
  | str text => simp only [tokenize, isEmpty_eq_of_actsAs act, scan_eq_of_actsAs act]
  | _ => rfl

end Lexer

/-! ## Expressions run by consumers -/

namespace Regex

/-- The consumer that runs an expression at the start of the text it is given. -/
def onRest (expression : Regex) : Consumer := fun rest =>
  (Matcher.regex expression).attemptAt rest 0

variable {expression : Regex}

/-- Run on the rest of the text, an expression that never looks back reports the same. -/
theorem onRest_eq_attempt (built : expression.node.BuiltFrom Lexeme.looksOn) (place : Place) :
    expression.onRest place.rest = .ok (expression.resultAt place) := by
  have start : Place.ofOffset place.rest 0 = .start place.rest := Place.advance_zero _
  have reported : expression.onRest place.rest =
      .ok (expression.resultAt (.ofOffset place.rest 0)) := rfl
  rw [reported, start, resultAt, resultAt, matchAt_start_rest built]

end Regex

/-- A definition is left as it is, or a consumer runs its expression, which never looks back. -/
inductive Definition.HandsOver : Definition → Definition → Prop
  | kept (definition : Definition) : HandsOver definition definition
  | toConsumer {definition : Definition} {expression : Regex} {pattern : Text}
      {flags : Regex.Flags} (given : definition.matcher = .regex expression)
      (read : Regex.compile pattern flags = .ok expression)
      (forward : Regex.isForwardPattern flags pattern = true) :
      HandsOver definition { definition with matcher := .consumer expression.onRest }

theorem Definition.HandsOver.actsAs {definition other : Definition}
    (handsOver : definition.HandsOver other) : definition.ActsAs other := by
  cases handsOver with
  | kept => exact .refl definition
  | toConsumer given read forward =>
      refine ⟨rfl, rfl, rfl, fun place tracker => ?_⟩
      have built := Regex.builtFrom_of_compile forward read
      rw [matchHere, matchHere, given, Matcher.attempt, Matcher.attempt]
      dsimp only
      rw [Regex.onRest_eq_attempt built]

namespace Lexer

/--
A pattern that never looks back, read with any options, matches at an offset of a text
what it matches at the start of the text from there on.  Lexers that hand such
expressions over to consumers, any of them, make of every content what they made before.
-/
theorem tokenize_handed_over :
    (∀ pattern flags expression, Regex.compile pattern flags = .ok expression →
      Regex.isForwardPattern flags pattern = true → ∀ (text : Text) (pos : Nat),
        (Matcher.regex expression).attemptAt text pos =
          (Matcher.regex expression).attemptAt (text.drop pos) 0) ∧
    ∀ lexer other : Lexer,
      List.Forall₂ Definition.HandsOver lexer.patterns other.patterns →
      ∀ content, other.tokenize content = lexer.tokenize content := by
  constructor
  · intro pattern flags expression read forward text pos
    have built := Regex.builtFrom_of_compile forward read
    have reported := Regex.onRest_eq_attempt built (.ofOffset text pos)
    rw [Place.rest_ofOffset] at reported
    exact reported.symm
  · intro lexer other handsOver content
    exact tokenize_eq_of_actsAs (handsOver.imp fun _ _ handed => handed.actsAs) content

/-- A letter, in either case, as often as it takes until the text ends or another follows. -/
def repeatedExpression : Regex where
  pattern := "(?i)(a)\\1+?(?=$|b)"
  flags := {}
  node :=
    .seq (.capture 1 (.seq (.set ⟨false, true, [.single 97]⟩) .empty))
      (.seq (.loop true 1 none (.reference true 1))
        (.seq
          (.ahead false
            (.alt (.seq (.anchor false .lineEnd) .empty)
              (.seq (.set ⟨false, true, [.single 98]⟩) .empty)))
          .empty))

def repeatedDefinition : Definition where
  name := "repeated"
  matcher := .regex repeatedExpression
  ignore := false
  interpret := none
  name_ne_nil := by decide

def handedOverDefinition : Definition :=
  { repeatedDefinition with matcher := .consumer repeatedExpression.onRest }

/-- The lexer that tries the expression first and then takes blanks and single characters. -/
def repeatedLexer : Lexer :=
  { blanksAndSingles with patterns := repeatedDefinition :: blanksAndSingles.patterns }

/-- The same lexer, with the consumer in place of the expression. -/
def handedOverLexer : Lexer :=
  { blanksAndSingles with patterns := handedOverDefinition :: blanksAndSingles.patterns }

theorem tokenize_handed_over_repeated :
    let text : Text := ['x', 'a', 'A', 'a', 'b']
    Regex.compile repeatedExpression.pattern {} = .ok repeatedExpression ∧
      Regex.isForwardPattern {} repeatedExpression.pattern = true ∧
      (Matcher.regex repeatedExpression).attemptAt text (1 : Nat) =
        (Matcher.regex repeatedExpression).attemptAt (text.drop 1) 0 ∧
      List.Forall₂ Definition.HandsOver repeatedLexer.patterns handedOverLexer.patterns ∧
      handedOverLexer.tokenize (.str text) =
        .ok [⟨.int 1, ['s'], 1, 1⟩, ⟨.str ['a', 'A', 'a'], "repeated", 1, 2⟩,
          ⟨.int 1, ['s'], 1, 5⟩] := by
  intro text
  have read : Regex.compile repeatedExpression.pattern {} = .ok repeatedExpression := rfl
  have forward : Regex.isForwardPattern {} repeatedExpression.pattern = true := rfl
  have handsOver : List.Forall₂ Definition.HandsOver repeatedLexer.patterns
      handedOverLexer.patterns :=
    .cons (.toConsumer rfl read forward) (List.forall₂_same.mpr fun _ _ => .kept _)
  have cut : repeatedLexer.tokenize (.str text) =
      .ok [⟨.int 1, ['s'], 1, 1⟩, ⟨.str ['a', 'A', 'a'], "repeated", 1, 2⟩,
        ⟨.int 1, ['s'], 1, 5⟩] := by cbv
  exact ⟨read, forward, tokenize_handed_over.1 _ _ _ read forward text 1, handsOver,
    (tokenize_handed_over.2 _ _ handsOver (.str text)).trans cut⟩

end Lexer

end Lexwork
