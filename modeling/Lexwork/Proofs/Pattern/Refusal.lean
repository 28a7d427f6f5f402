import Lexwork.Proofs.Lexer.Registry
import Lexwork.Proofs.Regex.Repetition

/-!
# Texts that are refused as expressions

The text of an expression is refused by the fault of its definition, with one
exception: where reading comes to bounds in braces that ask for repetitions beyond
counting, the failure is another one.  No lexer keeps anything of a refused text.
-/

namespace Lexwork

namespace Regex

variable {excess : Excess}

namespace Builder

variable {builder : Builder}

@[grind .] theorem refuse_ne {α : Type} (cause : Cause) (offset : Nat) :
    (refuse cause offset : Except Refusal α) ≠ .error (.uncountable excess) :=
  nofun

@[grind .] theorem addReference_ne (builder : Builder) (group start stop : Nat) :
    builder.addReference group start stop ≠ .error (.uncountable excess) := by
  unfold addReference
  grind

@[grind .] theorem quantify_ne (builder : Builder) (least : Nat) (most : Option Nat)
    (manner : Manner) (start : Nat) :
    builder.quantify least most manner start ≠ .error (.uncountable excess) := by
  unfold quantify
  grind

@[grind .] theorem openCapture_ne (builder : Builder) (name? : Option Text)
    (start nameStart : Nat) :
    builder.openCapture name? start nameStart ≠ .error (.uncountable excess) := by
  unfold openCapture
  grind

@[grind .] theorem pop_ne (builder : Builder) (start : Nat) :
    builder.pop start ≠ .error (.uncountable excess) := by
  unfold pop
  grind

/-- What a lexeme asks for was counted when it was read. -/
theorem take_ne (builder : Builder) (start stop : Nat) (lexeme : Lexeme) :
    builder.take start stop lexeme ≠ .error (.uncountable excess) := by
  unfold take
  grind

theorem finish_ne (builder : Builder) : builder.finish ≠ .error (.uncountable excess) := by
  unfold finish
  grind

theorem takeAll_append (builder : Builder) (front back : List Placed) :
    builder.takeAll (front ++ back) = (builder.takeAll front).bind (·.takeAll back) := by
  induction front generalizing builder with
  | nil => rfl
  | cons placed front ih =>
      rw [List.cons_append, takeAll, takeAll]
      cases placed.outcome with
      | error refusal => rfl
      | ok lexeme =>
          cases taken : builder.take placed.start placed.stop lexeme with
          | error refusal => simp [taken, Except.bind]
          | ok next => simp [taken, ih]

/-- Building is refused for repetitions only at a lexeme that asks for them. -/
theorem exists_uncountable {all : List Placed}
    (refused : builder.takeAll all = .error (.uncountable excess)) :
    ∃ front placed back next, all = front ++ placed :: back ∧
      builder.takeAll front = .ok next ∧ placed.outcome = .error (.uncountable excess) := by
  induction all generalizing builder with
  | nil => cases refused
  | cons first rest ih =>
      rw [takeAll] at refused
      cases outcome : first.outcome with
      | error refusal =>
          simp only [outcome] at refused
          cases refused
          exact ⟨[], first, rest, builder, rfl, rfl, outcome⟩
      | ok lexeme =>
          simp only [outcome] at refused
          cases taken : builder.take first.start first.stop lexeme with
          | error refusal =>
              simp only [taken] at refused
              cases refused
              exact absurd taken (builder.take_ne _ _ _)
          | ok middle =>
              simp only [taken] at refused
              obtain ⟨front, placed, back, next, rfl, built, asks⟩ := ih refused
              refine ⟨first :: front, placed, back, next, rfl, ?_, asks⟩
              rw [takeAll, outcome]
              simpa only [taken] using built

/-- Building comes no further than a lexeme that asks for repetitions beyond counting. -/
theorem takeAll_uncountable {front back : List Placed} {placed : Placed} {next : Builder}
    (built : builder.takeAll front = .ok next)
    (asks : placed.outcome = .error (.uncountable excess)) :
    builder.takeAll (front ++ placed :: back) = .error (.uncountable excess) := by
  rw [takeAll_append, built]
  change next.takeAll (placed :: back) = _
  rw [takeAll, asks]

end Builder

/-! ## Reading -/

theorem nothing_behind_iff {glyph : Glyph} {rest later : List Glyph} {bounds : Text}
    (read : glyph :: rest = bounds.map Glyph.plain ++ later) :
    rest.length < bounds.length ↔ later = [] := by
  have size := congrArg List.length read
  rw [List.length_cons, List.length_append, List.length_map] at size
  rw [← List.length_eq_zero_iff]
  omega

/--
The first lexeme asks for repetitions beyond counting exactly if it is bounds that do.
A backslash that escapes nothing is noticed before them if it stands right behind.
-/
theorem first_uncountable_iff {dangling verbose : Bool} {offset : Nat} {glyphs : List Glyph}
    {placed : Placed} (first : (lexemes dangling verbose 0 offset glyphs).head? = some placed) :
    placed.outcome = .error (.uncountable excess) ↔
      ∃ bounds later, ExcessiveBounds bounds excess ∧ glyphs = bounds.map Glyph.plain ++ later ∧
        ¬(dangling = true ∧ later = []) := by
  constructor
  · intro asks
    cases glyphs with
    | nil =>
        cases dangling <;> cases first
        cases asks
    | cons glyph rest =>
        rw [lexemes] at first
        cases outcome : (readLexeme verbose offset glyph rest).outcome with
        | ok lexeme =>
            simp only [outcome] at first
            split at first <;> cases first <;> cases asks
        | error refusal =>
            simp only [outcome] at first
            cases first
            split at asks
            · cases asks
            · next inside =>
              cases asks
              obtain ⟨bounds, later, excessive, read⟩ := excessive_of_readLexeme outcome
              refine ⟨bounds, later, excessive, read, fun loose => inside ?_⟩
              rw [readLexeme_excessive excessive read]
              exact Bool.and_eq_true_iff.mpr
                ⟨loose.1, decide_eq_true ((nothing_behind_iff read).mpr loose.2)⟩
  · rintro ⟨bounds, later, excessive, rfl, apart⟩
    obtain ⟨behind, rfl⟩ := excessive.eq_cons
    have read : Glyph.plain '\x7b' :: (behind.map Glyph.plain ++ later) =
        ('\x7b' :: behind).map Glyph.plain ++ later := rfl
    rw [← read, lexemes, readLexeme_excessive excessive read] at first
    cases first
    refine congrArg Except.error (if_neg fun loose => apart ?_)
    obtain ⟨loose, short⟩ := Bool.and_eq_true_iff.mp loose
    exact ⟨loose, (nothing_behind_iff read).mp (of_decide_eq_true short)⟩

theorem eq_backslash_iff {text : Text} :
    Glyph.dangling text = true ∧ Glyph.ofText text = [] ↔ text = ['\\'] := by
  constructor
  · rintro ⟨loose, unread⟩
    cases text with
    | nil => cases loose
    | cons c rest =>
        by_cases backslash : c = '\\'
        · subst backslash
          cases rest with
          | nil => rfl
          | cons d rest => cases unread
        · rw [Glyph.ofText_cons backslash] at unread
          cases unread
  · rintro rfl
    exact ⟨rfl, rfl⟩

/-- The first lexeme of a text asks for repetitions exactly if the text starts with such bounds. -/
theorem first_of_text_uncountable_iff {verbose : Bool} {offset : Nat} {text : Text}
    {placed : Placed}
    (first : (lexemes (Glyph.dangling text) verbose 0 offset (Glyph.ofText text)).head? =
      some placed) :
    placed.outcome = .error (.uncountable excess) ↔
      ∃ bounds after, text = bounds ++ after ∧ ExcessiveBounds bounds excess ∧
        after ≠ ['\\'] := by
  rw [first_uncountable_iff first]
  constructor
  · rintro ⟨bounds, later, excessive, units, apart⟩
    obtain ⟨after, shape, rfl, same⟩ := Glyph.ofText_eq_append units
    rw [Glyph.flatMap_text_plain] at shape
    exact ⟨bounds, after, shape, excessive, fun lone =>
      apart (same ▸ eq_backslash_iff.mpr lone)⟩
  · rintro ⟨bounds, after, rfl, excessive, apart⟩
    have units := Glyph.ofText_append excessive.ordinary after
    obtain ⟨behind, shape, -, same⟩ := Glyph.ofText_eq_append units
    rw [Glyph.flatMap_text_plain] at shape
    obtain rfl := List.append_cancel_left shape
    exact ⟨bounds, _, excessive, units, fun lone => apart (eq_backslash_iff.mp (same ▸ lone))⟩

def lexemesOf (flags : Flags) (pattern : Text) : List Placed :=
  lexemes (Glyph.dangling pattern) flags.verbose 0 0 (Glyph.ofText pattern)

/-- Reading a pattern comes to an offset: all that stands before it is read without a fault. -/
def Arrives (flags : Flags) (pattern : Text) (offset : Nat) : Prop :=
  ∃ front placed back builder, lexemesOf flags pattern = front ++ placed :: back ∧
    placed.start = offset ∧ Builder.takeAll { flags } front = .ok builder

/-- Reading a pattern comes to bounds that ask for repetitions beyond counting. -/
def AsksFor (flags : Flags) (pattern : Text) (excess : Excess) : Prop :=
  ∃ before bounds after, pattern = before ++ bounds ++ after ∧ ExcessiveBounds bounds excess ∧
    Arrives flags pattern before.length ∧ after ≠ ['\\']

theorem takeAll_lexemesOf_iff {flags : Flags} {pattern : Text} :
    Builder.takeAll { flags } (lexemesOf flags pattern) = .error (.uncountable excess) ↔
      AsksFor flags pattern excess := by
  constructor
  · intro refused
    obtain ⟨front, placed, back, builder, found, built, asks⟩ := Builder.exists_uncountable refused
    have inside : placed ∈ lexemesOf flags pattern :=
      found ▸ List.mem_append_right _ (List.mem_cons_self ..)
    obtain ⟨before, behind, verbose, rfl, start, first⟩ := exists_behind_of_mem inside
    obtain ⟨bounds, after, rfl, excessive, apart⟩ := (first_of_text_uncountable_iff first).mp asks
    exact ⟨before, bounds, after, (List.append_assoc ..).symm, excessive,
      ⟨front, placed, back, builder, found, start.symm, built⟩, apart⟩
  · rintro ⟨before, bounds, after, shape, excessive,
      ⟨front, placed, back, builder, found, start, built⟩, apart⟩
    have inside : placed ∈ lexemesOf flags pattern :=
      found ▸ List.mem_append_right _ (List.mem_cons_self ..)
    obtain ⟨passed, behind, verbose, split, there, first⟩ := exists_behind_of_mem inside
    obtain ⟨rfl, rfl⟩ : passed = before ∧ behind = bounds ++ after :=
      List.append_inj (by rw [← split, shape, List.append_assoc]) (there.trans start)
    have asks := (first_of_text_uncountable_iff first).mpr ⟨bounds, after, rfl, excessive, apart⟩
    rw [found]
    exact Builder.takeAll_uncountable built asks

/-- A pattern is refused for repetitions exactly if reading comes to bounds that ask for them. -/
theorem compile_uncountable_iff {flags : Flags} {pattern : Text} :
    compile pattern flags = .error (.uncountable excess) ↔ AsksFor flags pattern excess := by
  rw [← takeAll_lexemesOf_iff, compile, readPattern, ← lexemesOf]
  cases built : Builder.takeAll { flags } (lexemesOf flags pattern) with
  | error refusal => simp [Except.map]
  | ok builder =>
      refine iff_of_false ?_ nofun
      cases finished : builder.finish with
      | ok node => simp [Except.map, finished]
      | error refusal =>
          simp only [Except.map, finished]
          rintro ⟨⟩
          exact builder.finish_ne finished

end Regex

/-- An attempt fails, if at all, by the fault of a definition. -/
def FailsByDefinition {α : Type} (attempt : Except Fault α) : Prop :=
  ∀ fault, attempt = .error fault → ∃ cause, fault = .definition cause

section Definitions

open Regex (AsksFor Excess)

variable {pattern : Text} {excess : Excess}

theorem FailsByDefinition.map {α β : Type} {attempt : Except Fault α}
    (fails : FailsByDefinition attempt) (f : α → β) : FailsByDefinition (attempt.map f) := by
  cases attempt with
  | error fault =>
      rintro _ ⟨⟩
      exact fails fault rfl
  | ok a => exact fun _ => nofun

theorem not_failsByDefinition_ofExcess {α : Type} (excess : Excess) :
    ¬FailsByDefinition (.error (.ofExcess excess) : Except Fault α) := by
  intro fails
  obtain ⟨cause, same⟩ := fails _ rfl
  cases excess <;> cases same

theorem ofPattern_asksFor (asks : AsksFor {} pattern excess) :
    Matcher.ofPattern (.text pattern) = .error (.ofExcess excess) := by
  rw [Matcher.ofPattern, Regex.compile_uncountable_iff.mpr asks]

theorem failsByDefinition_ofPattern (none : ∀ excess, ¬AsksFor {} pattern excess) :
    FailsByDefinition (Matcher.ofPattern (.text pattern)) := by
  intro fault failed
  rw [Matcher.ofPattern] at failed
  split at failed
  · cases failed
  · cases failed
    exact ⟨_, rfl⟩
  · next excess asks => exact absurd (Regex.compile_uncountable_iff.mp asks) (none excess)
  · cases failed
    exact ⟨_, rfl⟩

/-- An attempt that fails otherwise only for such repetitions tells whether they are asked for. -/
theorem failsByDefinition_iff {α : Type} {attempt : Except Fault α}
    (beyond : ∀ excess, AsksFor {} pattern excess → attempt = .error (.ofExcess excess))
    (within : (∀ excess, ¬AsksFor {} pattern excess) → FailsByDefinition attempt) :
    FailsByDefinition attempt ↔ ∀ excess, ¬AsksFor {} pattern excess := by
  refine ⟨fun fails excess asks => ?_, within⟩
  rw [beyond excess asks] at fails
  exact not_failsByDefinition_ofExcess excess fails

variable (lexer : Lexer) (name ignore : Value) (interpret : Supplied Interpreter)

theorem proposal_asksFor (asks : AsksFor {} pattern excess) :
    Proposal.ofPattern name (.text pattern) ignore interpret = .error (.ofExcess excess) := by
  rw [Proposal.ofPattern, ofPattern_asksFor asks]
  rfl

theorem serve_asksFor (asks : AsksFor {} pattern excess) :
    (lexer.serve (.register (.parts name (.text pattern) .absent ignore interpret))).1 =
      .error (.ofExcess excess) := by
  rw [Lexer.serve, Registration.enter, Lexer.add]
  change (lexer.settle (((Proposal.ofPattern name (.text pattern) ignore interpret).bind
    fun proposal => lexer.register (.proposal proposal)).map Prod.fst)).1 = _
  rw [proposal_asksFor name ignore interpret asks]
  rfl

theorem failsByDefinition_serve (none : ∀ excess, ¬AsksFor {} pattern excess) :
    FailsByDefinition
      (lexer.serve (.register (.parts name (.text pattern) .absent ignore interpret))).1 := by
  have readable : Registration.Readable (.parts name (.text pattern) .absent ignore interpret) := by
    rintro draft ⟨⟩
    exact fun excess refused => none excess (Regex.compile_uncountable_iff.mp refused)
  intro fault failed
  rcases Lexer.serve_register readable lexer with ⟨_, cause, refused⟩ | ⟨_, accepted⟩
  · rw [refused] at failed
    cases failed
    exact ⟨cause, rfl⟩
  · rw [accepted] at failed
    cases failed

/--
The text of an expression fails by the fault of its definition, if at all, unless it
asks for repetitions beyond counting: then it fails for that, as a matcher, as a
definition and at its registration.  A lexer stays as it was whatever the failure.
-/
theorem text_failsByDefinition_iff (pattern : Text) :
    let registered :=
      lexer.serve (.register (.parts name (.text pattern) .absent ignore interpret))
    (FailsByDefinition (Matcher.ofPattern (.text pattern)) ↔
        ∀ excess, ¬AsksFor {} pattern excess) ∧
      (FailsByDefinition (Proposal.ofPattern name (.text pattern) ignore interpret) ↔
        ∀ excess, ¬AsksFor {} pattern excess) ∧
      (FailsByDefinition registered.1 ↔ ∀ excess, ¬AsksFor {} pattern excess) ∧
      (∀ excess, AsksFor {} pattern excess →
        Matcher.ofPattern (.text pattern) = .error (.ofExcess excess) ∧
        Proposal.ofPattern name (.text pattern) ignore interpret = .error (.ofExcess excess) ∧
        registered.1 = .error (.ofExcess excess)) ∧
      ∀ fault, registered.1 = .error fault → registered.2 = lexer := by
  intro registered
  refine ⟨failsByDefinition_iff (fun _ => ofPattern_asksFor) failsByDefinition_ofPattern,
    failsByDefinition_iff (fun _ => proposal_asksFor name ignore interpret)
      fun none => (failsByDefinition_ofPattern none).map _,
    failsByDefinition_iff (fun _ => serve_asksFor lexer name ignore interpret)
      (failsByDefinition_serve lexer name ignore interpret),
    fun _ asks => ⟨ofPattern_asksFor asks, proposal_asksFor name ignore interpret asks,
      serve_asksFor lexer name ignore interpret asks⟩,
    fun fault failed => ?_⟩
  have step := Lexer.step_serve lexer
    (.register (.parts name (.text pattern) .absent ignore interpret))
  rw [show (lexer.serve _).1 = .error fault from failed] at step
  exact step.unchanged

/-- A letter that is to be repeated nearly a hundred billion times is no faulty definition. -/
theorem text_beyond_counting :
    let pattern : Text := "a\x7b99999999999\x7d"
    let lexer : Lexer := ⟨"toy".toList, [], by decide⟩
    ¬FailsByDefinition (Matcher.ofPattern (.text pattern)) ∧
      ¬FailsByDefinition (Proposal.ofPattern "A" (.text pattern) (.bool false) .absent) ∧
      ¬FailsByDefinition
        (lexer.serve (.register (.parts "A" (.text pattern) .absent (.bool false) .absent))).1 :=
  ⟨not_failsByDefinition_ofExcess .tooMany, not_failsByDefinition_ofExcess .tooMany,
    not_failsByDefinition_ofExcess .tooMany⟩

end Definitions

end Lexwork
