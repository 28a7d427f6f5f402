import Lexwork.Proofs.Lexer.Lockstep

/-!
# Lexers with more definitions

Definitions that are registered later never take a cut away from earlier ones:
they are asked only where all of those decline.  So a lexer with more definitions
makes every cut that the lexer made without them and differs at the earliest
where that one found nothing to match.
-/

namespace Lexwork

namespace Lexer

variable {definitions : List Definition} {text : Text}

/-- The lexer with further definitions, each behind all others. -/
def extend (lexer : Lexer) (more : List Definition) : Lexer :=
  more.foldl append lexer

theorem patterns_extend (lexer : Lexer) (more : List Definition) :
    (lexer.extend more).patterns = lexer.patterns ++ more := by
  induction more generalizing lexer with
  | nil => simp [extend]
  | cons definition more ih =>
      have rest := ih (lexer.append definition)
      rw [extend] at rest ⊢
      rw [List.foldl_cons, rest]
      simp [append]

theorem Reaches.extend {offset : Nat} {definition : Definition}
    (reached : Reaches definitions text offset definition) (more : List Definition) :
    Reaches (definitions ++ more) text offset definition := by
  obtain ⟨earlier, later, rfl, declined⟩ := reached
  exact ⟨earlier, later ++ more, by simp, declined⟩

theorem IsLink.extend {link : Link} (valid : IsLink definitions text link)
    (more : List Definition) : IsLink (definitions ++ more) text link :=
  { valid with reached := valid.reached.extend more }

theorem Chain.extend {start stop : Nat} {links : List Link}
    (chain : Chain definitions text start links stop) (more : List Definition) :
    Chain (definitions ++ more) text start links stop := by
  have transferred := chain.transfer id (fun _ valid => valid.extend more) fun _ => ⟨rfl, rfl⟩
  rwa [List.map_id] at transferred

theorem Raises.extend {offset : Nat} {fault : Fault}
    (raises : Raises definitions text offset fault) (more : List Definition) :
    Raises (definitions ++ more) text offset fault := by
  cases raises with
  | matching reached failed => exact .matching (reached.extend more) failed
  | interpreting reached matched given failed =>
      exact .interpreting (reached.extend more) matched given failed

theorem Chain.trans {start middle stop : Nat} {links later : List Link}
    (chain : Chain definitions text start links middle)
    (rest : Chain definitions text middle later stop) :
    Chain definitions text start (links ++ later) stop := by
  induction chain with
  | done offset => exact rest
  | link starts first _ ih => exact .link starts first (ih rest)

theorem Chain.le {start stop : Nat} {links : List Link}
    (chain : Chain definitions text start links stop) : start ≤ stop := by
  induction chain with
  | done offset => exact Nat.le_refl _
  | link starts first _ ih =>
      have forward := first.forward
      omega

/-- A lexer that succeeds makes the tokens of every chain from the start first. -/
theorem tokens_of_chain {lexer : Lexer} (registered : lexer.patterns ≠ []) {offset : Nat}
    {links : List Link} (chain : Chain lexer.patterns text 0 links offset) {tokens : List Token}
    (cut : lexer.tokenize (.str text) = .ok tokens) : tokensAlong text links <+: tokens := by
  rw [tokenize_eq_scanFrom registered, scanFrom_of_chain chain] at cut
  cases behind : scanFrom lexer.patterns text offset with
  | error fault =>
      rw [behind] at cut
      cases cut
  | ok later =>
      rw [behind] at cut
      cases cut
      exact List.prefix_append _ _

/-- A lexer that fails does so no earlier than any chain from the start leads. -/
theorem fails_behind_chain {lexer : Lexer} (registered : lexer.patterns ≠ []) {offset : Nat}
    {links : List Link} (inside : offset ≤ text.length)
    (chain : Chain lexer.patterns text 0 links offset) {fault : Fault}
    (failed : lexer.tokenize (.str text) = .error fault) :
    ∃ later stop, Chain lexer.patterns text 0 (links ++ later) stop ∧ offset ≤ stop ∧
      stop < text.length ∧ Fails lexer.patterns text stop fault := by
  rw [tokenize_eq_scanFrom registered, scanFrom_of_chain chain] at failed
  cases behind : scanFrom lexer.patterns text offset with
  | ok tokens =>
      rw [behind] at failed
      cases failed
  | error other =>
      rw [behind] at failed
      cases failed
      obtain ⟨later, stop, rest, short, fails⟩ := (scanFrom_eq_error_iff inside).mp behind
      exact ⟨later, stop, chain.trans rest, rest.le, short, fails⟩

theorem extend_ne_nil {lexer : Lexer} (registered : lexer.patterns ≠ [])
    (more : List Definition) : (lexer.extend more).patterns ≠ [] := by
  rw [patterns_extend]
  simp [registered]

theorem chain_extend {lexer : Lexer} {offset : Nat} {links : List Link}
    (chain : Chain lexer.patterns text 0 links offset) (more : List Definition) :
    Chain (lexer.extend more).patterns text 0 links offset := by
  rw [patterns_extend]
  exact chain.extend more

theorem tokenize_extend_of_ok {lexer : Lexer} (registered : lexer.patterns ≠ [])
    (more : List Definition) {tokens : List Token}
    (cut : lexer.tokenize (.str text) = .ok tokens) :
    (lexer.extend more).tokenize (.str text) = .ok tokens := by
  obtain ⟨links, chain, rfl⟩ := (tokenize_eq_ok_iff registered).mp cut
  exact (tokenize_eq_ok_iff (extend_ne_nil registered more)).mpr
    ⟨links, chain_extend chain more, rfl⟩

/-- Where the function of a caller fails a lexer, it does so with more definitions too. -/
theorem tokenize_extend_of_raises {lexer : Lexer} (registered : lexer.patterns ≠ [])
    (more : List Definition) {offset : Nat} {links : List Link} {fault : Fault}
    (chain : Chain lexer.patterns text 0 links offset) (inside : offset < text.length)
    (raises : Raises lexer.patterns text offset fault) :
    (lexer.extend more).tokenize (.str text) = .error fault := by
  have still : Fails (lexer.extend more).patterns text offset fault := by
    rw [patterns_extend]
    exact .raised (raises.extend more)
  exact (tokenize_eq_error_iff (extend_ne_nil registered more)).mpr
    ⟨links, offset, chain_extend chain more, inside, still⟩

/--
A lexer with more definitions returns what it returned without them, and fails
as it failed, unless it had found nothing to match.  Then it gets to that offset
by the same cuts: its tokens start with those made so far, and if it reports
unmatched text too, then no earlier.  A report of unmatched text that a function
of a caller made stays as it is.
-/
theorem tokenize_extend (lexer : Lexer) (more : List Definition) (text : Text)
    (registered : lexer.patterns ≠ []) :
    (∀ tokens, lexer.tokenize (.str text) = .ok tokens →
      (lexer.extend more).tokenize (.str text) = .ok tokens) ∧
    (∀ fault, lexer.tokenize (.str text) = .error fault → (∀ place, fault ≠ .unmatched place) →
      (lexer.extend more).tokenize (.str text) = .error fault) ∧
    (∀ place, lexer.tokenize (.str text) = .error (.unmatched place) →
      (∃ links offset, Chain lexer.patterns text 0 links offset ∧ offset < text.length ∧
        Declines text offset lexer.patterns ∧ place = unmatchedReport text offset ∧
        Chain (lexer.extend more).patterns text 0 links offset ∧
        (∀ tokens, (lexer.extend more).tokenize (.str text) = .ok tokens →
          tokensAlong text links <+: tokens) ∧
        ∀ other, (lexer.extend more).tokenize (.str text) = .error (.unmatched other) →
          ∃ later stop, Chain (lexer.extend more).patterns text 0 (links ++ later) stop ∧
            offset ≤ stop ∧ stop < text.length ∧
            Fails (lexer.extend more).patterns text stop (.unmatched other)) ∨
      (∃ links offset, Chain lexer.patterns text 0 links offset ∧
        Raises lexer.patterns text offset (.unmatched place)) ∧
        (lexer.extend more).tokenize (.str text) = .error (.unmatched place)) := by
  have registered' := extend_ne_nil registered more
  refine ⟨fun tokens => tokenize_extend_of_ok registered more, ?_, ?_⟩
  · intro fault failed other
    obtain ⟨links, offset, chain, inside, fails⟩ :=
      (tokenize_eq_error_iff registered).mp failed
    cases fails with
    | unmatched declined => exact absurd rfl (other _)
    | raised raises => exact tokenize_extend_of_raises registered more chain inside raises
  · intro place failed
    obtain ⟨links, offset, chain, inside, fails⟩ :=
      (tokenize_eq_error_iff registered).mp failed
    have same := chain_extend chain more
    rcases fails_unmatched_iff.mp fails with ⟨declined, report⟩ | raises
    · exact .inl ⟨links, offset, chain, inside, declined, report, same,
        fun _ cut => tokens_of_chain registered' same cut,
        fun _ failed' => fails_behind_chain registered' (Nat.le_of_lt inside) same failed'⟩
    · exact .inr ⟨⟨links, offset, chain, raises⟩,
        tokenize_extend_of_raises registered more chain inside raises⟩

/-- The further definition would fail wherever it were asked. -/
theorem tokenize_extend_blanksAndSingles :
    blanksAndSingles.patterns ≠ [] ∧
      (blanksAndSingles.extend
        [⟨['r'], .consumer fun _ => .error (.raised ['r']), false, none, by decide⟩]).tokenize
          (.str ['a', ' ', 'b']) = .ok [⟨.int 1, ['s'], 1, 1⟩, ⟨.int 1, ['s'], 1, 3⟩] := by
  have registered : blanksAndSingles.patterns ≠ [] := by simp [blanksAndSingles]
  have returned : blanksAndSingles.tokenize (.str ['a', ' ', 'b']) =
      .ok [⟨.int 1, ['s'], 1, 1⟩, ⟨.int 1, ['s'], 1, 3⟩] := by cbv
  exact ⟨registered, (tokenize_extend blanksAndSingles _ _ registered).1 _ returned⟩

end Lexer

end Lexwork
