import Lexwork.Position
import Lexwork.Regex.Matcher
import Lexwork.Regex.Reader

/-!
# Pattern definitions

A definition names a kind of token and says how to recognise it: by a regular
expression or by a caller's own consumer, never both.  It may be ignored, and
it may interpret the text that it consumed.

Callers propose definitions with arbitrary values in their fields; a proposal
becomes a definition only if every field is in order.

A match is never empty: a pattern that matches nothing does not match.
-/

namespace Lexwork

/-- A caller's function from the remaining text to a consume result. -/
abbrev Consumer := Text → Except Fault Value

/-- A caller's function from consumed text to the content of a token. -/
abbrev Interpreter := Text → Except Fault Value

/-- What a caller may supply where a function is wanted. -/
inductive Supplied (φ : Type)
  | absent
  | function (f : φ)
  | other

namespace Supplied

def isAbsent {φ : Type} : Supplied φ → Bool
  | .absent => true
  | _ => false

end Supplied

/-- What a caller may supply where a regular expression is wanted. -/
inductive PatternSource
  | absent
  | text (pattern : Text)
  | compiled (expression : Regex)
  | other

namespace PatternSource

def isAbsent : PatternSource → Bool
  | .absent => true
  | _ => false

end PatternSource

/-- How a token is recognised. -/
inductive Matcher
  | regex (expression : Regex)
  | consumer (consume : Consumer)

namespace Value

def failure : Value :=
  .result (.bool false) (.str []) .none

def success (consumed : Text) : Value :=
  .result (.bool true) (.str consumed) .none

end Value

namespace Regex

def resultAt (regex : Regex) (place : Place) : Value :=
  match regex.node.matchAt place with
  | some consumed => .success consumed
  | none => .failure

def matchesEmpty (regex : Regex) : Bool :=
  (regex.node.matchAt (.start [])).isSome

end Regex

def Fault.ofExcess : Regex.Excess → Fault
  | .tooMany => .tooManyRepetitions
  | .tooManyDigits count => .badValue (.number (.tooManyDigits count))

namespace Matcher

def ofPattern : PatternSource → Except Fault Matcher
  | .text pattern =>
      match Regex.compile pattern {} with
      | .ok expression => .ok (.regex expression)
      | .error (.malformed fault) => .error (.definition (.badPattern pattern fault))
      | .error (.uncountable excess) => .error (.ofExcess excess)
      | .error (.unsupported construct) => .error (.definition (.unsupportedPattern construct))
  | .compiled expression => .ok (.regex expression)
  | .absent => .error (.definition .patternNotRegex)
  | .other => .error (.definition .patternNotRegex)

def ofConsumer : Supplied Consumer → Except Fault Matcher
  | .function consume => .ok (.consumer consume)
  | _ => .error (.definition .consumeNotFunction)

def attempt (matcher : Matcher) (place : Place) : Except Fault Value :=
  match matcher with
  | .regex expression => .ok (expression.resultAt place)
  | .consumer consume => consume place.rest

/--
Tries to match at a signed offset.  A regular expression starts at the nearest
place inside the text; a consumer gets the text from the offset onwards.
-/
def attemptAt (matcher : Matcher) (text : Text) (offset : Int) : Except Fault Value :=
  match matcher with
  | .regex expression => .ok (expression.resultAt (.ofOffset text offset.toNat))
  | .consumer consume => consume (text.dropFrom offset)

end Matcher

/-! ## Proposals and definitions -/

inductive MatcherSource
  | absent
  | matcher (matcher : Matcher)
  | other (kind : Text)

/-- A definition as a caller proposes it. -/
structure Proposal where
  name : Value
  matcher : MatcherSource
  ignore : Value
  interpret : Supplied Interpreter

/-- A definition in order: its name is not empty. -/
structure Definition where
  name : Text
  matcher : Matcher
  ignore : Bool
  interpret : Option Interpreter
  name_ne_nil : name ≠ []

namespace Proposal

def ofPattern (name : Value) (pattern : PatternSource) (ignore : Value)
    (interpret : Supplied Interpreter) : Except Fault Proposal :=
  (Matcher.ofPattern pattern).map fun matcher => ⟨name, .matcher matcher, ignore, interpret⟩

def ofConsumer (name : Value) (consume : Supplied Consumer) (ignore : Value)
    (interpret : Supplied Interpreter) : Except Fault Proposal :=
  (Matcher.ofConsumer consume).map fun matcher => ⟨name, .matcher matcher, ignore, interpret⟩

/-- Proposes a definition by exactly one of a regular expression and a consumer. -/
def ofEither (name : Value) (pattern : PatternSource) (consume : Supplied Consumer)
    (ignore : Value) (interpret : Supplied Interpreter) : Except Fault Proposal :=
  match pattern.isAbsent, consume.isAbsent with
  | true, true => .error (.definition .noMatcher)
  | false, false => .error (.definition .twoMatchers)
  | false, true => ofPattern name pattern ignore interpret
  | true, false => ofConsumer name consume ignore interpret

def checkedMatcher (proposal : Proposal) : Except Fault Matcher :=
  match proposal.matcher with
  | .absent => .error (.definition .noMatcher)
  | .other kind => .error (.definition (.notMatcher kind))
  | .matcher matcher => .ok matcher

def checkedIgnore (proposal : Proposal) : Except Fault Bool :=
  match proposal.ignore with
  | .bool ignore => .ok ignore
  | _ => .error (.definition .ignoreNotBool)

def checkedInterpret (proposal : Proposal) : Except Fault (Option Interpreter) :=
  match proposal.interpret with
  | .absent => .ok none
  | .function interpret => .ok (some interpret)
  | .other => .error (.definition .interpretNotFunction)

/-- The definition that a proposal is, or the first field that is not in order. -/
def validate (proposal : Proposal) : Except Fault Definition :=
  match proposal.name with
  | .str (c :: rest) => do
      let matcher ← proposal.checkedMatcher
      let ignore ← proposal.checkedIgnore
      let interpret ← proposal.checkedInterpret
      return ⟨c :: rest, matcher, ignore, interpret, List.cons_ne_nil c rest⟩
  | _ => .error (.definition .noName)

end Proposal

/-! ## Matches -/

/-- A successful match: the text consumed and what else the matcher reported. -/
structure Match where
  consumed : Text
  success : Value
  content : Value

def Match.result (found : Match) : Value :=
  .result found.success (.str found.consumed) found.content

namespace Definition

/-- The failure of a matcher that claims to have consumed what does not stand there. -/
def notPrefix (name : Text) (tracker : Tracker) (consumed : Value) : Fault :=
  .showing consumed.literal? fun shown =>
    .lexing (.notPrefix name tracker.line tracker.character shown)

/--
Judges what a matcher reported: it has to be a consume result, and the text that
a successful one claims has to stand at the place in question.
-/
def judge (name : Text) (tracker : Tracker) (stands : Text → Bool) :
    Value → Except Fault (Option Match)
  | .result success consumed content =>
      if !success.truthy then .ok none
      else
        match consumed with
        | .str piece =>
            if stands piece then
              .ok (if piece = [] then none else some ⟨piece, success, content⟩)
            else
              .error (notPrefix name tracker consumed)
        | _ => .error (notPrefix name tracker consumed)
  | other => .error (.showing other.literal? fun shown => .lexing (.notResult name shown))

def matchHere (definition : Definition) (place : Place) (tracker : Tracker) :
    Except Fault (Option Match) :=
  (definition.matcher.attempt place).bind
    (judge definition.name tracker (·.isPrefixOf place.rest))

/-- The match of a definition at a signed offset of a text. -/
def matchAt (definition : Definition) (text : Text) (offset : Int) (tracker : Tracker) :
    Except Fault (Option Match) :=
  (definition.matcher.attemptAt text offset).bind
    (judge definition.name tracker (text.standsAt · offset))

/--
The content of the token for a match: what the interpreter makes of the text,
else the content that the matcher reported, else the text itself.
-/
def contentOf (definition : Definition) (found : Match) : Except Fault Value :=
  match definition.interpret with
  | some interpret => interpret found.consumed
  | none => .ok (if found.content.isNone then .str found.consumed else found.content)

theorem judge_eq_some {name : Text} {tracker : Tracker} {stands : Text → Bool} {value : Value}
    {found : Match} (judged : judge name tracker stands value = .ok (some found)) :
    found.consumed ≠ [] ∧ stands found.consumed = true := by
  unfold judge at judged
  split at judged
  · split at judged
    · cases judged
    · split at judged
      · split at judged
        · rename_i piece standing
          split at judged
          · cases judged
          · rename_i nonempty
            cases judged
            exact ⟨nonempty, standing⟩
        · cases judged
      · cases judged
  · cases judged

theorem matchHere_eq_some {definition : Definition} {place : Place} {tracker : Tracker}
    {found : Match} (matched : definition.matchHere place tracker = .ok (some found)) :
    found.consumed ≠ [] ∧ found.consumed <+: place.rest := by
  unfold matchHere at matched
  cases attempted : definition.matcher.attempt place with
  | error fault => simp [attempted, Except.bind] at matched
  | ok value =>
      simp only [attempted, Except.bind] at matched
      obtain ⟨nonempty, stands⟩ := judge_eq_some matched
      exact ⟨nonempty, List.isPrefixOf_iff_prefix.mp stands⟩

/-- Inside a text, matching at an offset is matching at its place. -/
theorem matchAt_natCast (definition : Definition) {text : Text} {n : Nat} (tracker : Tracker)
    (inside : n ≤ text.length) :
    definition.matchAt text n tracker = definition.matchHere (.ofOffset text n) tracker := by
  have stands : (text.standsAt · (n : Int)) = (·.isPrefixOf (Place.ofOffset text n).rest) := by
    funext piece
    rw [Text.standsAt_natCast inside, Place.rest_ofOffset]
  have attempted : definition.matcher.attemptAt text n =
      definition.matcher.attempt (.ofOffset text n) := by
    cases found : definition.matcher with
    | regex expression => simp [Matcher.attemptAt, Matcher.attempt]
    | consumer consume => simp [Matcher.attemptAt, Matcher.attempt]
  rw [matchAt, matchHere, stands, attempted]

end Definition

end Lexwork
