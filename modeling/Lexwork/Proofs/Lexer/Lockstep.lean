import Lexwork.Proofs.Lexer.Chain

/-!
# Lexers in lockstep

How a text is cut depends on the names and matchers of the definitions alone.
Which definitions are ignored, and what their interpreters make of the text,
changes the tokens but never the cuts: two lexers that differ only there go
through the text in lockstep, link by link, and fail at the same offset.
-/

namespace Lexwork

/-- What a token says about its place: its type, its line and its character. -/
def Token.mark (token : Token) : Text × Nat × Nat :=
  (token.type, token.line, token.character)

namespace Definition

/-- The definition without its ignore flag. -/
def shown (definition : Definition) : Definition :=
  { definition with ignore := false }

/-- The definition without its interpreter. -/
def plain (definition : Definition) : Definition :=
  { definition with interpret := none }

/-- A change of definitions that leaves alone how they match. -/
def KeepsMatching (change : Definition → Definition) : Prop :=
  ∀ definition,
    (change definition).name = definition.name ∧ (change definition).matcher = definition.matcher

theorem keepsMatching_shown : KeepsMatching shown :=
  fun _ => ⟨rfl, rfl⟩

theorem keepsMatching_plain : KeepsMatching plain :=
  fun _ => ⟨rfl, rfl⟩

theorem KeepsMatching.matchAt {change : Definition → Definition} (keeps : KeepsMatching change)
    (definition : Definition) : (change definition).matchAt = definition.matchAt := by
  obtain ⟨name, matcher⟩ := keeps definition
  funext text offset tracker
  rw [Definition.matchAt, Definition.matchAt, name, matcher]

end Definition

namespace Lexer

variable {first second definitions : List Definition} {text : Text}
  {change : Definition → Definition}

/-- Links that are links of other definitions too form a chain of these. -/
theorem Chain.transfer {start stop : Nat} {cuts : List Link}
    (chain : Chain first text start cuts stop) (relabel : Link → Link)
    (links : ∀ link, IsLink first text link → IsLink second text (relabel link))
    (bounds : ∀ link, (relabel link).start = link.start ∧ (relabel link).stop = link.stop) :
    Chain second text start (cuts.map relabel) stop := by
  induction chain with
  | done offset => exact .done offset
  | @link start stop link cuts starts valid rest ih =>
      refine .link ((bounds link).1.trans starts) (links link valid) ?_
      rw [(bounds link).2]
      exact ih

theorem declines_map_iff (keeps : Definition.KeepsMatching change) {offset : Nat} :
    Declines text offset (definitions.map change) ↔ Declines text offset definitions := by
  simp only [Declines, List.forall_mem_map, keeps.matchAt]

theorem Reaches.map (keeps : Definition.KeepsMatching change) {offset : Nat}
    {definition : Definition} (reached : Reaches definitions text offset definition) :
    Reaches (definitions.map change) text offset (change definition) := by
  obtain ⟨earlier, later, rfl, declined⟩ := reached
  refine ⟨earlier.map change, later.map change, ?_, (declines_map_iff keeps).mpr declined⟩
  rw [List.map_append, List.map_cons]

theorem IsLink.map (keeps : Definition.KeepsMatching change) {link : Link}
    (valid : IsLink definitions text link) {content : Value}
    (carried : (change link.definition).Carries link.found content) :
    IsLink (definitions.map change) text
      { link with definition := change link.definition, content := content } where
  reached := valid.reached.map keeps
  matched := by
    rw [keeps.matchAt]
    exact valid.matched
  forward := valid.forward
  inside := valid.inside
  consumed := valid.consumed
  carried := carried

/-- A failure stays the same failure, if it does when it is an interpreter's. -/
theorem Fails.map (keeps : Definition.KeepsMatching change) {offset : Nat} {fault : Fault}
    (failed : Fails definitions text offset fault)
    (interpreting : ∀ definition found interpret, Reaches definitions text offset definition →
      definition.matchAt text offset (Tracker.atOffset text offset) = .ok (some found) →
      definition.interpret = some interpret → interpret found.consumed = .error fault →
      (change definition).interpret = some interpret) :
    Fails (definitions.map change) text offset fault := by
  cases failed with
  | unmatched declined => exact .unmatched ((declines_map_iff keeps).mpr declined)
  | raised raises =>
      cases raises with
      | matching reached failed =>
          refine .raised (.matching (reached.map keeps) ?_)
          rw [keeps.matchAt]
          exact failed
      | interpreting reached matched given failed =>
          have kept := interpreting _ _ _ reached matched given failed
          refine .raised (.interpreting (reached.map keeps) ?_ kept failed)
          rw [keeps.matchAt]
          exact matched

def mapPatterns (lexer : Lexer) (change : Definition → Definition) : Lexer :=
  { lexer with patterns := lexer.patterns.map change }

theorem tokenize_congr {lexer other : Lexer} (same : lexer.patterns = other.patterns)
    (content : Value) : lexer.tokenize content = other.tokenize content := by
  cases content with
  | str text => simp only [tokenize, same]
  | _ => rfl

/--
If every link and every failure of a lexer is one of the changed lexer too, both
fail alike or go through the same cuts.
-/
theorem tokenize_mapPatterns (lexer : Lexer) (text : Text) {relabel : Link → Link}
    (links : ∀ link, IsLink lexer.patterns text link →
      IsLink (lexer.patterns.map change) text (relabel link))
    (bounds : ∀ link, (relabel link).start = link.start ∧ (relabel link).stop = link.stop)
    (fails : ∀ cuts offset fault, Chain lexer.patterns text 0 cuts offset →
      Fails lexer.patterns text offset fault →
      Fails (lexer.patterns.map change) text offset fault) :
    (∃ fault, lexer.tokenize (.str text) = .error fault ∧
        (lexer.mapPatterns change).tokenize (.str text) = .error fault) ∨
      ∃ cuts, Chain lexer.patterns text 0 cuts text.length ∧
        Chain (lexer.patterns.map change) text 0 (cuts.map relabel) text.length ∧
        lexer.tokenize (.str text) = .ok (tokensAlong text cuts) ∧
        (lexer.mapPatterns change).tokenize (.str text) =
          .ok (tokensAlong text (cuts.map relabel)) := by
  by_cases registered : lexer.patterns = []
  · refine .inl ⟨.lexing .noPatterns, ?_, ?_⟩
    · simp [tokenize, registered]
    · simp [tokenize, mapPatterns, registered]
  have changed : (lexer.mapPatterns change).patterns ≠ [] := by
    simpa [mapPatterns] using registered
  rcases chain_or_fails lexer.patterns (Nat.zero_le text.length) with
    ⟨cuts, chain⟩ | ⟨cuts, offset, fault, chain, inside, failed⟩
  · have other := chain.transfer relabel links bounds
    exact .inr ⟨cuts, chain, other, (tokenize_eq_ok_iff registered).mpr ⟨cuts, chain, rfl⟩,
      (tokenize_eq_ok_iff changed).mpr ⟨_, other, rfl⟩⟩
  · have other := chain.transfer relabel links bounds
    have failed' := fails cuts offset fault chain failed
    exact .inl ⟨fault,
      (tokenize_eq_error_iff registered).mpr ⟨cuts, offset, chain, inside, failed⟩,
      (tokenize_eq_error_iff changed).mpr ⟨_, offset, other, inside, failed'⟩⟩

/-! ## Ignored definitions -/

/-- The token of a link, whether its definition is ignored or not. -/
def Link.token (text : Text) (link : Link) : Token :=
  let tracker := Tracker.atOffset text link.start
  ⟨link.content, link.definition.name, tracker.line, tracker.character⟩

def Link.shown (link : Link) : Link :=
  { link with definition := link.definition.shown }

theorem tokensAlong_eq_filter (links : List Link) :
    tokensAlong text links =
      (links.filter fun link => !link.definition.ignore).map (Link.token text) := by
  induction links with
  | nil => rfl
  | cons link links ih =>
      rw [tokensAlong, List.filterMap_cons, List.filter_cons, ← tokensAlong, ih]
      cases ignored : link.definition.ignore with
      | false => simp [Link.token?, Link.token, ignored]
      | true => simp [Link.token?, ignored]

/-- Where no definition is ignored, every link makes its token. -/
theorem tokensAlong_shown (links : List Link) :
    tokensAlong text (links.map Link.shown) = links.map (Link.token text) := by
  rw [tokensAlong_eq_filter, List.filter_eq_self.mpr, List.map_map]
  · rfl
  · simp [Link.shown, Definition.shown]

theorem IsLink.shown {link : Link} (valid : IsLink definitions text link) :
    IsLink (definitions.map Definition.shown) text link.shown := by
  have content : link.definition.contentOf link.found = .ok link.content :=
    Definition.contentOf_eq_ok_iff.mpr valid.carried
  apply valid.map Definition.keepsMatching_shown
  rw [← Definition.contentOf_eq_ok_iff]
  exact content

/-- Ignored or not, the same cuts are made; only the tokens of ignored definitions are missing. -/
theorem tokenize_shown (lexer : Lexer) (text : Text) :
    (∃ fault, lexer.tokenize (.str text) = .error fault ∧
        (lexer.mapPatterns Definition.shown).tokenize (.str text) = .error fault) ∨
      ∃ cuts, Chain lexer.patterns text 0 cuts text.length ∧
        Chain (lexer.patterns.map Definition.shown) text 0 (cuts.map Link.shown) text.length ∧
        lexer.tokenize (.str text) =
          .ok ((cuts.filter fun link => !link.definition.ignore).map (Link.token text)) ∧
        (lexer.mapPatterns Definition.shown).tokenize (.str text) =
          .ok (cuts.map (Link.token text)) := by
  have fails : ∀ cuts offset fault, Chain lexer.patterns text 0 cuts offset →
      Fails lexer.patterns text offset fault →
      Fails (lexer.patterns.map Definition.shown) text offset fault := by
    intro cuts offset fault _ failed
    exact failed.map Definition.keepsMatching_shown fun _ _ _ _ _ given _ => given
  rcases tokenize_mapPatterns lexer text (fun _ valid => valid.shown) (fun _ => ⟨rfl, rfl⟩) fails
    with failed | ⟨cuts, chain, other, cut, cut'⟩
  · exact .inl failed
  · rw [tokensAlong_eq_filter] at cut
    rw [tokensAlong_shown] at cut'
    exact .inr ⟨cuts, chain, other, cut, cut'⟩

/-- No interpreter fails on what its definition matches when a lexer gets there. -/
def Interprets (definitions : List Definition) (text : Text) : Prop :=
  ∀ links offset definition found interpret,
    Chain definitions text 0 links offset → Reaches definitions text offset definition →
    definition.matchAt text offset (Tracker.atOffset text offset) = .ok (some found) →
    definition.interpret = some interpret → ∃ content, interpret found.consumed = .ok content

def Link.plain (link : Link) : Link :=
  { link with
    definition := link.definition.plain
    content := if link.found.content.isNone then .str link.found.consumed else link.found.content }

theorem IsLink.plain {link : Link} (valid : IsLink definitions text link) :
    IsLink (definitions.map Definition.plain) text link.plain := by
  apply valid.map Definition.keepsMatching_plain
  rw [← Definition.contentOf_eq_ok_iff]
  rfl

theorem marks_plain (links : List Link) :
    (tokensAlong text (links.map Link.plain)).map Token.mark =
      (tokensAlong text links).map Token.mark := by
  rw [tokensAlong_eq_filter, tokensAlong_eq_filter, List.filter_map, List.map_map, List.map_map,
    List.map_map]
  rfl

/-- If no interpreter fails, a lexer marks the same tokens without its interpreters. -/
theorem marks_tokenize_plain {lexer : Lexer} {text : Text}
    (interprets : Interprets lexer.patterns text) :
    ((lexer.mapPatterns Definition.plain).tokenize (.str text)).map (List.map Token.mark) =
      (lexer.tokenize (.str text)).map (List.map Token.mark) := by
  have fails : ∀ cuts offset fault, Chain lexer.patterns text 0 cuts offset →
      Fails lexer.patterns text offset fault →
      Fails (lexer.patterns.map Definition.plain) text offset fault := by
    intro cuts offset fault chain failed
    apply failed.map Definition.keepsMatching_plain
    intro definition found interpret reached matched given raised
    obtain ⟨content, returned⟩ :=
      interprets cuts offset definition found interpret chain reached matched given
    rw [returned] at raised
    cases raised
  rcases tokenize_mapPatterns lexer text (fun _ valid => valid.plain) (fun _ => ⟨rfl, rfl⟩) fails
    with ⟨fault, failed, failed'⟩ | ⟨cuts, _, _, cut, cut'⟩
  · rw [failed, failed']
  · rw [cut, cut']
    exact congrArg Except.ok (marks_plain cuts)

/--
Whether definitions are ignored never decides how a text is cut: with all of
them shown, the lexer fails in the same way, or makes the same tokens and those
of the ignored definitions between them.  Nor do interpreters: lexers that differ
in nothing else, and whose interpreters do not fail, fail in the same way or make
tokens of the same types at the same places.
-/
theorem tokenize_in_lockstep (lexer : Lexer) (text : Text) :
    ((∃ fault, lexer.tokenize (.str text) = .error fault ∧
        (lexer.mapPatterns Definition.shown).tokenize (.str text) = .error fault) ∨
      ∃ cuts, Chain lexer.patterns text 0 cuts text.length ∧
        Chain (lexer.patterns.map Definition.shown) text 0 (cuts.map Link.shown) text.length ∧
        lexer.tokenize (.str text) =
          .ok ((cuts.filter fun link => !link.definition.ignore).map (Link.token text)) ∧
        (lexer.mapPatterns Definition.shown).tokenize (.str text) =
          .ok (cuts.map (Link.token text))) ∧
    ∀ other : Lexer,
      other.patterns.map Definition.plain = lexer.patterns.map Definition.plain →
      Interprets lexer.patterns text → Interprets other.patterns text →
      (lexer.tokenize (.str text)).map (List.map Token.mark) =
        (other.tokenize (.str text)).map (List.map Token.mark) := by
  refine ⟨tokenize_shown lexer text, ?_⟩
  intro other same interprets interprets'
  -- Without their interpreters the two lexers are the same, so each is compared with that one.
  have common : (other.mapPatterns Definition.plain).tokenize (.str text) =
      (lexer.mapPatterns Definition.plain).tokenize (.str text) := tokenize_congr same _
  calc
    (lexer.tokenize (.str text)).map (List.map Token.mark) =
        ((lexer.mapPatterns Definition.plain).tokenize (.str text)).map (List.map Token.mark) :=
      (marks_tokenize_plain interprets).symm
    _ = ((other.mapPatterns Definition.plain).tokenize (.str text)).map (List.map Token.mark) := by
      rw [common]
    _ = (other.tokenize (.str text)).map (List.map Token.mark) := marks_tokenize_plain interprets'

theorem tokenize_in_lockstep_blanksAndSingles :
    Interprets blanksAndSingles.patterns ['a', ' ', '\r', 'b'] ∧
      Interprets (blanksAndSingles.mapPatterns Definition.plain).patterns ['a', ' ', '\r', 'b'] ∧
      (blanksAndSingles.tokenize (.str ['a', ' ', '\r', 'b'])).map (List.map Token.mark) =
        ((blanksAndSingles.mapPatterns Definition.plain).tokenize
          (.str ['a', ' ', '\r', 'b'])).map (List.map Token.mark) := by
  have interprets : Interprets blanksAndSingles.patterns ['a', ' ', '\r', 'b'] := by
    rintro _ _ definition found interpret _ ⟨earlier, later, split, _⟩ _ given
    have listed : definition ∈ blanksAndSingles.patterns := by simp [split]
    simp only [blanksAndSingles, List.mem_cons, List.not_mem_nil, or_false] at listed
    rcases listed with rfl | rfl
    · cases given
    · cases given
      exact ⟨_, rfl⟩
  have uninterpreted : Interprets (blanksAndSingles.mapPatterns Definition.plain).patterns
      ['a', ' ', '\r', 'b'] := by
    rintro _ _ definition found interpret _ ⟨earlier, later, split, _⟩ _ given
    have listed : definition ∈ (blanksAndSingles.mapPatterns Definition.plain).patterns := by
      simp [split]
    obtain ⟨_, _, rfl⟩ := List.mem_map.mp listed
    cases given
  exact ⟨interprets, uninterpreted,
    (tokenize_in_lockstep blanksAndSingles _).2 _ rfl interprets uninterpreted⟩

end Lexer

end Lexwork
