import Lexwork.Lexer
import Mathlib.Data.List.Forall2

/-!
# The registry of a lexer

Definitions reach a lexer by two doors: a caller registers one that it has put
together, or names its parts and leaves it to the lexer.  What is wrong with one
comes to light in different places, the making of its matcher, the choice between
expression and consumer, the check of its fields.  Seen from outside it is one
rule: a registration is refused exactly if it is malformed, and else it appends
the definition that it describes.

So after any calls whatsoever, refused ones among them, the definitions of a lexer
are those that its accepted registrations describe, in order.
-/

namespace Lexwork

/-- What a caller may put where a matcher belongs. -/
inductive MatcherDraft
  | absent
  | pattern (source : PatternSource)
  | consumer (consume : Supplied Consumer)
  | other (kind : Text)

/-- The parts of a definition as a caller puts them together. -/
structure Draft where
  name : Value
  matcher : MatcherDraft
  ignore : Value
  interpret : Supplied Interpreter

/-- What stands in the place of the matcher once it is made, or the failure of making it. -/
def MatcherDraft.source : MatcherDraft → Except Fault MatcherSource
  | .absent => .ok .absent
  | .pattern source => (Matcher.ofPattern source).map .matcher
  | .consumer consume => (Matcher.ofConsumer consume).map .matcher
  | .other kind => .ok (.other kind)

def Draft.propose (draft : Draft) : Except Fault Proposal :=
  draft.matcher.source.map fun matcher => ⟨draft.name, matcher, draft.ignore, draft.interpret⟩

def Draft.define (draft : Draft) : Except Fault Definition :=
  draft.propose.bind Proposal.validate

theorem bind_eq_ok_iff {ε α β : Type} {first : Except ε α} {next : α → Except ε β} {result : β} :
    first >>= next = .ok result ↔ ∃ value, first = .ok value ∧ next value = .ok result := by
  cases first with
  | error fault => simp [bind, Except.bind]
  | ok value => simp [bind, Except.bind]

theorem map_eq_ok_iff {ε α β : Type} {first : Except ε α} {f : α → β} {result : β} :
    first.map f = .ok result ↔ ∃ value, first = .ok value ∧ f value = result := by
  cases first with
  | error fault => simp [Except.map]
  | ok value => simp [Except.map]

/-- A text that can be read and an expression make a matcher, and so does a function. -/
inductive MatcherDraft.Makes : MatcherDraft → Matcher → Prop
  | text {pattern : Text} {expression : Regex}
      (read : Regex.compile pattern {} = .ok expression) :
      Makes (.pattern (.text pattern)) (.regex expression)
  | compiled (expression : Regex) : Makes (.pattern (.compiled expression)) (.regex expression)
  | function (consume : Consumer) : Makes (.consumer (.function consume)) (.consumer consume)

/-- Nothing makes no function, and a function itself. -/
inductive Supplied.Makes {φ : Type} : Supplied φ → Option φ → Prop
  | absent : Makes .absent none
  | function (f : φ) : Makes (.function f) (some f)

/-- A draft describes the definition that agrees with it in every part. -/
structure Draft.Describes (draft : Draft) (definition : Definition) : Prop where
  name : draft.name = .str definition.name
  matcher : draft.matcher.Makes definition.matcher
  ignore : draft.ignore = .bool definition.ignore
  interpret : draft.interpret.Makes definition.interpret

/-- A draft is malformed if one of its parts is of no use. -/
inductive Draft.Malformed (draft : Draft) : Prop
  | name (unnamed : ∀ text, text ≠ [] → draft.name ≠ .str text)
  | matcher (unmatched : ∀ matcher, ¬draft.matcher.Makes matcher)
  | ignore (undecided : ∀ ignore, draft.ignore ≠ .bool ignore)
  | interpret (useless : draft.interpret = .other)

/-- A text in the place of an expression does not ask for repetitions beyond counting. -/
def MatcherDraft.Readable : MatcherDraft → Prop
  | .pattern (.text source) => ∀ excess, Regex.compile source {} ≠ .error (.uncountable excess)
  | _ => True

namespace MatcherDraft

theorem ofPattern_eq_ok_iff {source : PatternSource} {matcher : Matcher} :
    Matcher.ofPattern source = .ok matcher ↔ Makes (.pattern source) matcher := by
  constructor
  · intro made
    cases source with
    | absent => cases made
    | other => cases made
    | compiled expression =>
        cases made
        exact .compiled expression
    | text pattern =>
        rw [Matcher.ofPattern] at made
        split at made
        · rename_i read
          cases made
          exact .text read
        · cases made
        · cases made
        · cases made
  · rintro (read | _)
    · rw [Matcher.ofPattern, read]
    · rfl

theorem ofConsumer_eq_ok_iff {consume : Supplied Consumer} {matcher : Matcher} :
    Matcher.ofConsumer consume = .ok matcher ↔ Makes (.consumer consume) matcher := by
  constructor
  · intro made
    cases consume with
    | absent => cases made
    | other => cases made
    | function f =>
        cases made
        exact .function f
  · rintro ⟨_⟩
    rfl

/-- What is put in place of a matcher becomes one exactly if it makes one. -/
theorem source_eq_matcher_iff {draft : MatcherDraft} {matcher : Matcher} :
    draft.source = .ok (.matcher matcher) ↔ draft.Makes matcher := by
  cases draft with
  | absent => exact ⟨nofun, nofun⟩
  | other kind => exact ⟨nofun, nofun⟩
  | pattern source =>
      rw [← ofPattern_eq_ok_iff, MatcherDraft.source]
      cases Matcher.ofPattern source <;> simp [Except.map]
  | consumer consume =>
      rw [← ofConsumer_eq_ok_iff, MatcherDraft.source]
      cases Matcher.ofConsumer consume <;> simp [Except.map]

theorem source_error {draft : MatcherDraft} (readable : draft.Readable) {fault : Fault}
    (failed : draft.source = .error fault) : ∃ cause, fault = .definition cause := by
  cases draft with
  | absent => cases failed
  | other kind => cases failed
  | consumer consume => cases consume <;> cases failed <;> exact ⟨_, rfl⟩
  | pattern source =>
      cases source with
      | absent => cases failed; exact ⟨_, rfl⟩
      | other => cases failed; exact ⟨_, rfl⟩
      | compiled expression => cases failed
      | text pattern =>
          rw [MatcherDraft.source, Matcher.ofPattern] at failed
          split at failed
          · cases failed
          · cases failed; exact ⟨_, rfl⟩
          · exact absurd ‹_› (readable _)
          · cases failed; exact ⟨_, rfl⟩

end MatcherDraft

namespace Proposal

variable {proposal : Proposal}

theorem checkedMatcher_eq_ok_iff {matcher : Matcher} :
    proposal.checkedMatcher = .ok matcher ↔ proposal.matcher = .matcher matcher := by
  rw [checkedMatcher]
  split <;> simp_all

theorem checkedIgnore_eq_ok_iff {ignore : Bool} :
    proposal.checkedIgnore = .ok ignore ↔ proposal.ignore = .bool ignore := by
  rw [checkedIgnore]
  split
  · simp_all
  · rename_i other
    exact ⟨nofun, fun given => absurd given (other ignore)⟩

theorem checkedInterpret_eq_ok_iff {interpret : Option Interpreter} :
    proposal.checkedInterpret = .ok interpret ↔ proposal.interpret.Makes interpret := by
  rw [checkedInterpret]
  constructor
  · intro checked
    split at checked
    · rename_i supplied
      cases checked
      exact supplied ▸ .absent
    · rename_i supplied
      cases checked
      exact supplied ▸ .function _
    · cases checked
  · intro makes
    cases supplied : proposal.interpret <;> rw [supplied] at makes <;> cases makes <;> rfl

/-- A proposal passes exactly if each of its fields is that of the definition. -/
theorem validate_eq_ok_iff {definition : Definition} :
    proposal.validate = .ok definition ↔
      proposal.name = .str definition.name ∧
        proposal.matcher = .matcher definition.matcher ∧
        proposal.ignore = .bool definition.ignore ∧
        proposal.interpret.Makes definition.interpret := by
  rw [← checkedMatcher_eq_ok_iff, ← checkedIgnore_eq_ok_iff, ← checkedInterpret_eq_ok_iff]
  constructor
  · intro passed
    rw [validate] at passed
    split at passed
    · rename_i named
      obtain ⟨matcher, hasMatcher, passed⟩ := bind_eq_ok_iff.mp passed
      obtain ⟨ignore, hasIgnore, passed⟩ := bind_eq_ok_iff.mp passed
      obtain ⟨interpret, hasInterpret, passed⟩ := bind_eq_ok_iff.mp passed
      cases passed
      exact ⟨named, hasMatcher, hasIgnore, hasInterpret⟩
    · cases passed
  · rintro ⟨named, hasMatcher, hasIgnore, hasInterpret⟩
    obtain ⟨name, _, _, _, name_ne_nil⟩ := definition
    obtain ⟨c, rest, rfl⟩ := List.exists_cons_of_ne_nil name_ne_nil
    rw [validate, named, hasMatcher, hasIgnore, hasInterpret]
    rfl

theorem validate_error {fault : Fault} (failed : proposal.validate = .error fault) :
    ∃ cause, fault = .definition cause := by
  rw [validate] at failed
  split at failed
  · rw [checkedMatcher] at failed
    split at failed
    · cases failed; exact ⟨_, rfl⟩
    · cases failed; exact ⟨_, rfl⟩
    · rw [checkedIgnore] at failed
      split at failed
      · rw [checkedInterpret] at failed
        split at failed
        · cases failed
        · cases failed
        · cases failed; exact ⟨_, rfl⟩
      · cases failed; exact ⟨_, rfl⟩
  · cases failed; exact ⟨_, rfl⟩

end Proposal

namespace Draft

variable {draft : Draft}

/-- A draft makes exactly the definition that it describes. -/
theorem define_eq_ok_iff {definition : Definition} :
    draft.define = .ok definition ↔ draft.Describes definition := by
  constructor
  · intro made
    obtain ⟨proposal, proposed, valid⟩ := bind_eq_ok_iff.mp made
    obtain ⟨source, placed, rfl⟩ := map_eq_ok_iff.mp proposed
    obtain ⟨name, rfl, ignore, interpret⟩ := Proposal.validate_eq_ok_iff.mp valid
    exact ⟨name, MatcherDraft.source_eq_matcher_iff.mp placed, ignore, interpret⟩
  · rintro ⟨name, matcher, ignore, interpret⟩
    have placed := MatcherDraft.source_eq_matcher_iff.mpr matcher
    rw [define, propose, placed]
    exact Proposal.validate_eq_ok_iff.mpr ⟨name, rfl, ignore, interpret⟩

theorem define_error (readable : draft.matcher.Readable) {fault : Fault}
    (failed : draft.define = .error fault) : ∃ cause, fault = .definition cause := by
  rw [define, propose] at failed
  cases placed : draft.matcher.source with
  | error earlier =>
      rw [placed] at failed
      cases failed
      exact MatcherDraft.source_error readable placed
  | ok source =>
      rw [placed] at failed
      exact Proposal.validate_error failed

/-- A draft is malformed exactly if it describes no definition. -/
theorem malformed_iff : draft.Malformed ↔ ∀ definition, ¬draft.Describes definition := by
  constructor
  · rintro (unnamed | unmatched | undecided | useless) definition describes
    · exact unnamed _ definition.name_ne_nil describes.name
    · exact unmatched _ describes.matcher
    · exact undecided _ describes.ignore
    · have makes := describes.interpret
      rw [useless] at makes
      cases makes
  · intro none
    -- If no part is of no use, the useful ones make a definition that the draft describes.
    by_contra fine
    have name : ∃ text, text ≠ [] ∧ draft.name = .str text := by
      by_contra unnamed
      exact fine (.name fun text nonempty same => unnamed ⟨text, nonempty, same⟩)
    have matcher : ∃ matcher, draft.matcher.Makes matcher := by
      by_contra unmatched
      exact fine (.matcher (not_exists.mp unmatched))
    have ignore : ∃ ignore, draft.ignore = .bool ignore := by
      by_contra undecided
      exact fine (.ignore (not_exists.mp undecided))
    have interpret : ∃ interpret, draft.interpret.Makes interpret := by
      cases supplied : draft.interpret with
      | absent => exact ⟨_, .absent⟩
      | function f => exact ⟨_, .function f⟩
      | other => exact absurd (.interpret supplied) fine
    obtain ⟨text, nonempty, name⟩ := name
    obtain ⟨matcher, makes⟩ := matcher
    obtain ⟨ignore, given⟩ := ignore
    obtain ⟨interpret, supplied⟩ := interpret
    exact none ⟨text, matcher, ignore, interpret, nonempty⟩ ⟨name, makes, given, supplied⟩

end Draft

/-! ## Registrations -/

/--
What a caller may register: something that is no definition at all, a definition,
or the parts of one by an expression or a consumer.
-/
inductive Registration
  | other (kind : Text)
  | definition (draft : Draft)
  | parts (name : Value) (pattern : PatternSource) (consume : Supplied Consumer)
      (ignore : Value) (interpret : Supplied Interpreter)

namespace Registration

/-- Registers with a lexer. -/
def enter (lexer : Lexer) : Registration → Except Fault (Lexer × List Notice)
  | .other kind => lexer.register (.other kind)
  | .definition draft => draft.propose.bind fun proposal => lexer.register (.proposal proposal)
  | .parts name pattern consume ignore interpret =>
      lexer.add name pattern consume ignore interpret

/-- The draft that is registered; parts make one by an expression or a consumer, not both. -/
def draft? : Registration → Option Draft
  | .other _ => none
  | .definition draft => some draft
  | .parts name pattern consume ignore interpret =>
      match pattern.isAbsent, consume.isAbsent with
      | false, true => some ⟨name, .pattern pattern, ignore, interpret⟩
      | true, false => some ⟨name, .consumer consume, ignore, interpret⟩
      | _, _ => none

/-- A registration describes the definition that its draft describes. -/
def Describes (registration : Registration) (definition : Definition) : Prop :=
  ∃ draft ∈ registration.draft?, draft.Describes definition

/-- A registration is malformed if it has no draft or a malformed one. -/
def Malformed (registration : Registration) : Prop :=
  ∀ draft ∈ registration.draft?, draft.Malformed

/-- The text of an expression, if one is to be read, asks for no repetitions beyond counting. -/
def Readable (registration : Registration) : Prop :=
  ∀ draft ∈ registration.draft?, draft.matcher.Readable

variable {registration : Registration} {lexer : Lexer}

theorem malformed_iff :
    registration.Malformed ↔ ∀ definition, ¬registration.Describes definition := by
  constructor
  · rintro malformed definition ⟨draft, has, describes⟩
    exact Draft.malformed_iff.mp (malformed draft has) definition describes
  · intro none draft has
    refine Draft.malformed_iff.mpr fun definition describes => ?_
    exact none definition ⟨draft, has, describes⟩

theorem enter_proposed (proposed : Except Fault Proposal) :
    (proposed.bind fun proposal => lexer.register (.proposal proposal)).map Prod.fst =
      (proposed.bind Proposal.validate).map lexer.append := by
  cases proposed with
  | error fault => rfl
  | ok proposal =>
      change (lexer.register (.proposal proposal)).map Prod.fst = proposal.validate.map lexer.append
      rw [Lexer.register]
      cases proposal.validate <;> rfl

/-- By an expression or a consumer alone, parts propose what their draft does. -/
theorem ofEither_of_draft {name : Value} {pattern : PatternSource} {consume : Supplied Consumer}
    {ignore : Value} {interpret : Supplied Interpreter} {draft : Draft}
    (has : draft? (.parts name pattern consume ignore interpret) = some draft) :
    Proposal.ofEither name pattern consume ignore interpret = draft.propose := by
  simp only [draft?] at has
  split at has
  · rename_i given missing
    cases has
    rw [Proposal.ofEither, given, missing, Draft.propose, MatcherDraft.source]
    cases made : Matcher.ofPattern pattern <;> simp [Proposal.ofPattern, made, Except.map]
  · rename_i missing given
    cases has
    rw [Proposal.ofEither, given, missing, Draft.propose, MatcherDraft.source]
    cases made : Matcher.ofConsumer consume <;> simp [Proposal.ofConsumer, made, Except.map]
  · cases has

/-- Whichever door it takes, a draft is made into a definition, and that is appended. -/
theorem enter_of_draft {draft : Draft} (has : registration.draft? = some draft) :
    (registration.enter lexer).map Prod.fst = draft.define.map lexer.append := by
  cases registration with
  | other kind => cases has
  | definition given =>
      cases has
      exact enter_proposed draft.propose
  | parts name pattern consume ignore interpret =>
      rw [enter, Lexer.add, ofEither_of_draft has]
      exact enter_proposed draft.propose

theorem enter_of_no_draft (lexer : Lexer) (has : registration.draft? = none) :
    ∃ cause, registration.enter lexer = .error (.definition cause) := by
  cases registration with
  | other kind => exact ⟨_, rfl⟩
  | definition draft => cases has
  | parts name pattern consume ignore interpret =>
      rw [enter, Lexer.add, Proposal.ofEither]
      cases given : pattern.isAbsent <;> cases supplied : consume.isAbsent
      · exact ⟨_, rfl⟩
      · simp [draft?, given, supplied] at has
      · simp [draft?, given, supplied] at has
      · exact ⟨_, rfl⟩

/-- A registration is accepted exactly for the definition that it describes. -/
theorem enter_eq_ok_iff {next : Lexer} :
    (registration.enter lexer).map Prod.fst = .ok next ↔
      ∃ definition, registration.Describes definition ∧ lexer.append definition = next := by
  cases has : registration.draft? with
  | none =>
      obtain ⟨cause, refused⟩ := enter_of_no_draft lexer has
      simp [refused, Except.map, Describes, has]
  | some draft =>
      rw [enter_of_draft has, map_eq_ok_iff]
      simp [Draft.define_eq_ok_iff, Describes, has]

theorem enter_error (readable : registration.Readable) {fault : Fault}
    (failed : (registration.enter lexer).map Prod.fst = .error fault) :
    ∃ cause, fault = .definition cause := by
  cases has : registration.draft? with
  | none =>
      obtain ⟨cause, refused⟩ := enter_of_no_draft lexer has
      rw [refused] at failed
      cases failed
      exact ⟨cause, rfl⟩
  | some draft =>
      rw [enter_of_draft has] at failed
      cases made : draft.define with
      | ok definition => simp [made, Except.map] at failed
      | error earlier =>
          rw [made] at failed
          cases failed
          exact Draft.define_error (readable draft has) made

end Registration

/-! ## Calls -/

/--
The match of what a caller offers; without a matcher there is nothing to ask.  A name
without a text is noticed only when its matcher is blamed.
-/
def Offer.matchAt (offer : Offer) (text : Text) (offset : Int) (tracker : Tracker) :
    Except Fault (Option Match) :=
  match offer with
  | .proposal ⟨name, .matcher matcher, _, _⟩ =>
      let judge (name : Text) := Definition.judge name tracker (text.standsAt · offset)
      (matcher.attemptAt text offset).bind fun value =>
        match name.display? with
        | some name => judge name value
        | none => (judge [] value).mapError fun _ => .badValue .tooLongToWrite
  | _ => .error .missingField

/-- A proposal that passes matches as its definition does. -/
theorem Offer.matchAt_of_validate {proposal : Proposal} {definition : Definition}
    (valid : proposal.validate = .ok definition) (text : Text) (offset : Int) (tracker : Tracker) :
    Offer.matchAt (.proposal proposal) text offset tracker =
      definition.matchAt text offset tracker := by
  obtain ⟨name, matcher, ignore, interpret⟩ := proposal
  obtain ⟨rfl, rfl, _, _⟩ := Proposal.validate_eq_ok_iff.mp valid
  rfl

namespace Lexer

inductive Request
  | register (registration : Registration)
  | rename (name : Value)
  | tokenize (content : Value)
  | matchAt (offer : Offer) (text : Text) (offset : Int) (tracker : Tracker)

def settle (lexer : Lexer) : Except Fault Lexer → Except Fault Value × Lexer
  | .ok next => (.ok .none, next)
  | .error fault => (.error fault, lexer)

/-- What a caller is told of a match. -/
def matchValue : Option Match → Value
  | some found => .tuple [.str found.consumed, found.result]
  | none => .none

def serve (lexer : Lexer) : Request → Except Fault Value × Lexer
  | .register registration => lexer.settle ((registration.enter lexer).map Prod.fst)
  | .rename name => lexer.settle (lexer.rename name)
  | .tokenize content =>
      ((lexer.tokenize content).map fun tokens => .list (tokens.map Token.toValue), lexer)
  | .matchAt offer text offset tracker =>
      ((offer.matchAt text offset tracker).map matchValue, lexer)

abbrev History := List (Request × Except Fault Value)

/-- Carries out requests in turn, whether they are refused or not. -/
def run (lexer : Lexer) : List Request → History × Lexer
  | [] => ([], lexer)
  | request :: more =>
      let reply := lexer.serve request
      let later := run reply.2 more
      ((request, reply.1) :: later.1, later.2)

namespace History

/-- The registrations that were accepted. -/
def registrations (history : History) : List Registration :=
  history.filterMap fun (request, answer) =>
    -- The answer comes first, so that a refusal counts for nothing whatever was asked.
    match answer, request with
    | .ok _, .register registration => some registration
    | _, _ => none

def names (history : History) : List Value :=
  history.filterMap fun (request, answer) =>
    match answer, request with
    | .ok _, .rename name => some name
    | _, _ => none

theorem registrations_append (history later : History) :
    registrations (history ++ later) = history.registrations ++ later.registrations :=
  List.filterMap_append

theorem names_append (history later : History) :
    names (history ++ later) = history.names ++ later.names :=
  List.filterMap_append

end History

/-- What a request can be answered with, and what becomes of the lexer. -/
inductive Step (lexer : Lexer) : Request → Except Fault Value → Lexer → Prop
  | registered {registration : Registration} {definition : Definition}
      (describes : registration.Describes definition) :
      Step lexer (.register registration) (.ok .none) (lexer.append definition)
  | renamed {next : Lexer} (kept : next.patterns = lexer.patterns) :
      Step lexer (.rename (.str next.languageName)) (.ok .none) next
  | tokenized (content value : Value) : Step lexer (.tokenize content) (.ok value) lexer
  | matched (offer : Offer) (text : Text) (offset : Int) (tracker : Tracker) (value : Value) :
      Step lexer (.matchAt offer text offset tracker) (.ok value) lexer
  | refused (request : Request) (fault : Fault) : Step lexer request (.error fault) lexer

theorem create_eq_ok {name : Value} {start : Lexer} (created : create name = .ok start) :
    name = .str start.languageName ∧ start.patterns = [] := by
  unfold create at created
  split at created
  · cases created
    exact ⟨rfl, rfl⟩
  · cases created

theorem rename_eq_ok {lexer next : Lexer} {name : Value} (renamed : lexer.rename name = .ok next) :
    name = .str next.languageName ∧ next.patterns = lexer.patterns := by
  obtain ⟨fresh, created, rfl⟩ := map_eq_ok_iff.mp renamed
  exact ⟨(create_eq_ok created).1, rfl⟩

theorem step_serve (lexer : Lexer) (request : Request) :
    Step lexer request (lexer.serve request).1 (lexer.serve request).2 := by
  cases request with
  | register registration =>
      rw [serve]
      cases entered : (registration.enter lexer).map Prod.fst with
      | error fault => exact .refused _ fault
      | ok next =>
          obtain ⟨definition, describes, rfl⟩ := Registration.enter_eq_ok_iff.mp entered
          exact .registered describes
  | rename name =>
      rw [serve]
      cases renamed : lexer.rename name with
      | error fault => exact .refused _ fault
      | ok next =>
          obtain ⟨rfl, kept⟩ := rename_eq_ok renamed
          exact .renamed kept
  | tokenize content =>
      rw [serve]
      cases lexer.tokenize content with
      | error fault => exact .refused _ fault
      | ok tokens => exact .tokenized content _
  | matchAt offer text offset tracker =>
      rw [serve]
      cases offer.matchAt text offset tracker with
      | error fault => exact .refused _ fault
      | ok found => exact .matched offer text offset tracker _

/-- No call takes a definition away or puts one in front of another. -/
theorem Step.keeps {lexer next : Lexer} {request : Request} {answer : Except Fault Value}
    (step : Step lexer request answer next) : lexer.patterns <+: next.patterns := by
  cases step with
  | registered describes => exact List.prefix_append _ _
  | renamed kept => exact kept ▸ List.prefix_rfl
  | tokenized content value => exact List.prefix_rfl
  | matched offer text offset tracker value => exact List.prefix_rfl
  | refused request fault => exact List.prefix_rfl

theorem Step.unchanged {lexer next : Lexer} {request : Request} {fault : Fault}
    (step : Step lexer request (.error fault) next) : next = lexer := by
  cases step
  rfl

/-- A registration that can be read is refused exactly if it is malformed. -/
theorem serve_register {registration : Registration} (readable : registration.Readable)
    (lexer : Lexer) :
    (registration.Malformed ∧ ∃ cause,
        (lexer.serve (.register registration)).1 = .error (.definition cause)) ∨
      (¬registration.Malformed ∧ (lexer.serve (.register registration)).1 = .ok .none) := by
  rw [Registration.malformed_iff, serve]
  cases entered : (registration.enter lexer).map Prod.fst with
  | error fault =>
      obtain ⟨cause, rfl⟩ := Registration.enter_error readable entered
      refine .inl ⟨fun definition describes => ?_, cause, rfl⟩
      have accepted : (registration.enter lexer).map Prod.fst = .ok (lexer.append definition) :=
        Registration.enter_eq_ok_iff.mpr ⟨definition, describes, rfl⟩
      rw [entered] at accepted
      cases accepted
  | ok next =>
      obtain ⟨definition, describes, _⟩ := Registration.enter_eq_ok_iff.mp entered
      exact .inr ⟨fun none => none definition describes, rfl⟩

/--
The definitions of a lexer are those that the accepted registrations describe, in
order, and its name is the last that was accepted.
-/
structure Records (name : Value) (history : History) (lexer : Lexer) : Prop where
  patterns : List.Forall₂ Registration.Describes history.registrations lexer.patterns
  languageName : history.names.getLastD name = .str lexer.languageName

namespace Records

variable {name : Value} {history : History} {lexer next : Lexer}

theorem start (created : create name = .ok lexer) : Records name [] lexer := by
  obtain ⟨rfl, empty⟩ := create_eq_ok created
  exact ⟨empty ▸ .nil, rfl⟩

/-- A call that is neither an accepted registration nor an accepted name leaves no trace. -/
theorem idle (records : Records name history lexer) {call : Request × Except Fault Value}
    (unregistered : History.registrations [call] = []) (unnamed : History.names [call] = []) :
    Records name (history ++ [call]) lexer := by
  constructor
  · rw [History.registrations_append, unregistered, List.append_nil]
    exact records.patterns
  · rw [History.names_append, unnamed, List.append_nil]
    exact records.languageName

theorem step {request : Request} {answer : Except Fault Value}
    (records : Records name history lexer) (step : Step lexer request answer next) :
    Records name (history ++ [(request, answer)]) next := by
  cases step with
  | @registered registration definition describes =>
      have unnamed : History.names [(.register registration, .ok .none)] = [] := rfl
      constructor
      · rw [History.registrations_append]
        exact List.rel_append records.patterns (.cons describes .nil)
      · rw [History.names_append, unnamed, List.append_nil]
        exact records.languageName
  | renamed kept =>
      have unregistered : History.registrations
          [(.rename (.str next.languageName), .ok .none)] = [] := rfl
      constructor
      · rw [History.registrations_append, unregistered, List.append_nil, kept]
        exact records.patterns
      · rw [History.names_append]
        exact List.getLastD_concat
  | tokenized content value => exact records.idle rfl rfl
  | matched offer text offset tracker value => exact records.idle rfl rfl
  | refused request fault => exact records.idle rfl rfl

theorem run (records : Records name history lexer) (requests : List Request) :
    Records name (history ++ (lexer.run requests).1) (lexer.run requests).2 := by
  -- The history grows at its end: it varies with the lexer while the requests get fewer.
  induction requests generalizing history lexer with
  | nil => simpa [Lexer.run] using records
  | cons request more ih =>
      have later := ih (records.step (step_serve lexer request))
      rwa [List.append_assoc] at later

theorem wellFormed (records : Records name history lexer) {registration : Registration}
    (accepted : registration ∈ history.registrations) : ¬registration.Malformed := by
  have fine : List.Forall₂ (fun registration definition => ¬registration.Malformed ∧
      registration.Describes definition) history.registrations lexer.patterns :=
    records.patterns.imp fun _ definition describes =>
      ⟨fun malformed => Registration.malformed_iff.mp malformed definition describes, describes⟩
  exact ((List.forall₂_and_left _ _).mp fine).1 registration accepted

end Records

/--
After any calls, refused ones among them, the definitions of a lexer are those that
its accepted registrations describe, in order, none of which is malformed, and its
name is the last that was accepted.  Whatever is called next keeps the definitions
that are there and changes nothing if it fails; and a registration fails for its
definition exactly if it is malformed.
-/
theorem run_keeps_registry {name : Value} {start : Lexer} (created : create name = .ok start)
    (requests : List Request) :
    ∃ history lexer, start.run requests = (history, lexer) ∧
      List.Forall₂ Registration.Describes history.registrations lexer.patterns ∧
      (∀ registration ∈ history.registrations, ¬registration.Malformed) ∧
      history.names.getLastD name = .str lexer.languageName ∧ lexer.languageName ≠ [] ∧
      (∀ request, lexer.patterns <+: (lexer.serve request).2.patterns ∧
        ∀ fault, (lexer.serve request).1 = .error fault → (lexer.serve request).2 = lexer) ∧
      ∀ registration, registration.Readable →
        ((∃ cause, (lexer.serve (.register registration)).1 = .error (.definition cause)) ↔
          registration.Malformed) ∧
        ((lexer.serve (.register registration)).1 = .ok .none ↔ ¬registration.Malformed) := by
  have records := (Records.start created).run requests
  refine ⟨_, _, rfl, records.patterns, fun _ => records.wellFormed, records.languageName,
    Lexer.languageName_ne_nil _, ?_, ?_⟩
  · intro request
    have step := step_serve (start.run requests).2 request
    refine ⟨step.keeps, fun fault failed => ?_⟩
    rw [failed] at step
    exact step.unchanged
  · intro registration readable
    rcases serve_register readable (start.run requests).2 with
      ⟨malformed, cause, refused⟩ | ⟨fine, accepted⟩
    · simp [malformed, refused]
    · simp [fine, accepted]

/-- Between an expression and a name a consumer is refused, as it is no function. -/
theorem run_keeps_registry_interrupted :
    ∃ start history lexer, create "toy" = .ok start ∧
      start.run [.register (.parts "A" (.text "a+") .absent (.bool false) .absent),
        .register (.definition ⟨"B", .consumer .other, .bool false, .absent⟩),
        .rename "letters"] = (history, lexer) ∧
      List.Forall₂ Registration.Describes
        [.parts "A" (.text "a+") .absent (.bool false) .absent] lexer.patterns ∧
      Value.str lexer.languageName = "letters" ∧
      ∃ cause, (lexer.serve (.register (.parts .none (.text "b") .absent (.bool true) .absent))).1 =
        .error (.definition cause) := by
  have created : create "toy" = .ok ⟨"toy".toList, [], by decide⟩ := rfl
  obtain ⟨history, lexer, ran, described, _, named, _, _, registers⟩ :=
    run_keeps_registry created
      [.register (.parts "A" (.text "a+") .absent (.bool false) .absent),
        .register (.definition ⟨"B", .consumer .other, .bool false, .absent⟩),
        .rename "letters"]
  obtain rfl := congrArg Prod.fst ran
  have unnamed : Registration.Malformed
      (.parts .none (.text "b") .absent (.bool true) .absent) := by
    rintro draft ⟨⟩
    exact .name fun _ _ => nofun
  have readable : Registration.Readable
      (.parts .none (.text "b") .absent (.bool true) .absent) := by
    rintro draft ⟨⟩
    exact nofun
  exact ⟨_, _, lexer, created, ran, described, named.symm, (registers _ readable).1.mpr unnamed⟩

end Lexer

end Lexwork
