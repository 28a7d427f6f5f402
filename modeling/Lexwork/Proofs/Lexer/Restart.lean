import Lexwork.Proofs.Lexer.Extension
import Lexwork.Proofs.Lexer.Pieces

/-!
# Starting again at a cut

A consumer sees nothing but the text that is left.  So a lexer of consumers can be
started again at any offset that it reaches: from there on it cuts the rest of the
text as if that were a text of its own.  Only the positions differ.  They are
counted from the offset, on its line as long as no line break has been passed, and
a line feed that completes a line break begun before the offset opens no line.
-/

namespace Lexwork

namespace Tracker

/-- The next character completes a line break that a tracker has seen begin. -/
def Completes (base : Tracker) (next : Option Char) : Prop :=
  base.afterReturn = true ∧ next = some '\n'

instance (base : Tracker) (next : Option Char) : Decidable (base.Completes next) :=
  inferInstanceAs (Decidable (_ ∧ _))

/--
A line and a character counted from where a tracker stands, as they are counted
from the start of the text.
-/
def rebase (base : Tracker) (next : Option Char) (line character : Nat) : Nat × Nat :=
  if line = 1 then (base.line, base.character + character - 1)
  else if base.Completes next then (base.line + line - 2, character)
  else (base.line + line - 1, character)

/--
A fresh tracker and one that goes on from a base, behind the same text, which is
not empty: either no line break has been passed, or both are on the same character
and differ by the lines of the base.
-/
inductive Follows (base : Tracker) (next : Option Char) : Tracker → Tracker → Prop
  | firstLine (passed : Nat) (fresh : ¬ base.Completes next) :
      Follows base next ⟨1, passed + 1, false⟩ ⟨base.line, base.character + passed, false⟩
  | laterLine (passed character : Nat) (returned : Bool) :
      Follows base next ⟨passed + 2, character, returned⟩
        ⟨base.line + passed + (if base.Completes next then 0 else 1), character, returned⟩

variable {base fresh whole : Tracker} {next : Option Char}

theorem Follows.laterLine_of_eq (passed : Nat) {line character : Nat} {returned : Bool}
    (same : line = base.line + passed + if base.Completes next then 0 else 1) :
    Follows base next ⟨passed + 2, character, returned⟩ ⟨line, character, returned⟩ := by
  rw [same]
  exact .laterLine passed character returned

/-- Behind a first character, the two trackers differ by the base. -/
theorem follows_first (base : Tracker) (c : Char) :
    Follows base (some c) (({} : Tracker).step (Stroke.ofChar c))
      (base.step (Stroke.ofChar c)) := by
  unfold Stroke.ofChar
  split
  · rename_i isReturn
    have fresh : ¬ base.Completes (some c) := by
      rintro ⟨-, same⟩
      rw [isReturn] at same
      cases same
    refine .laterLine_of_eq 0 ?_
    rw [if_neg fresh]
  · split
    · rename_i isFeed
      refine .laterLine_of_eq 0 ?_
      cases returned : base.afterReturn with
      | true =>
          have completes : base.Completes (some c) := ⟨returned, congrArg some isFeed⟩
          rw [if_pos completes]
          rfl
      | false =>
          have fresh : ¬ base.Completes (some c) := fun completes => by
            cases returned.symm.trans completes.1
          rw [if_neg fresh]
          rfl
    · rename_i notFeed
      refine .firstLine 1 ?_
      rintro ⟨-, same⟩
      exact notFeed (Option.some.inj same)

/-- One more stroke keeps the difference. -/
theorem Follows.step (follows : Follows base next fresh whole) (stroke : Stroke) :
    Follows base next (fresh.step stroke) (whole.step stroke) := by
  cases follows with
  | firstLine passed fresh =>
      have opened : base.line + 1 = base.line + 0 + if base.Completes next then 0 else 1 := by
        rw [if_neg fresh]
      cases stroke with
      | carriageReturn => exact .laterLine_of_eq _ opened
      | lineFeed => exact .laterLine_of_eq _ opened
      | other => exact .firstLine (passed + 1) fresh
  | laterLine passed character returned =>
      have opened : base.line + passed + (if base.Completes next then 0 else 1) + 1 =
          base.line + (passed + 1) + if base.Completes next then 0 else 1 := by
        omega
      cases stroke with
      | carriageReturn => exact .laterLine_of_eq _ opened
      | lineFeed =>
          cases returned with
          | true => exact .laterLine passed 1 false
          | false => exact .laterLine_of_eq _ opened
      | other => exact .laterLine passed (character + 1) false

theorem Follows.consume (follows : Follows base next fresh whole) (text : Text) :
    Follows base next (fresh.consume text) (whole.consume text) := by
  induction text generalizing fresh whole with
  | nil => exact follows
  | cons c text ih => exact ih (follows.step (Stroke.ofChar c))

theorem Follows.position (follows : Follows base next fresh whole) :
    (whole.line, whole.character) = base.rebase next fresh.line fresh.character := by
  cases follows with
  | firstLine passed fresh => rfl
  | laterLine passed character returned =>
      have later : passed + 2 ≠ 1 := by omega
      dsimp only
      rw [rebase, if_neg later]
      by_cases completes : base.Completes next
      · rw [if_pos completes, if_pos completes]
        rfl
      · rw [if_neg completes, if_neg completes]
        rfl

/-- The position at an offset behind another one is the position counted from there. -/
theorem position_atOffset (text : Text) (k offset : Nat) :
    ((atOffset text (k + offset)).line, (atOffset text (k + offset)).character) =
      (atOffset text k).rebase text[k]? (atOffset (text.drop k) offset).line
        (atOffset (text.drop k) offset).character := by
  have whole : atOffset text (k + offset) =
      (atOffset text k).consume ((text.drop k).take offset) := by
    rw [atOffset, atOffset, ← consume_append, List.take_add]
  have next : text[k]? = (text.drop k).head? := List.head?_drop.symm
  rw [whole, next]
  generalize text.drop k = rest
  cases rest with
  | nil =>
      have still : atOffset [] offset = {} := by rw [atOffset, List.take_nil, consume_nil]
      rw [List.take_nil, still]
      rfl
  | cons c rest =>
      cases offset with
      | zero => rfl
      | succ offset => exact ((follows_first _ c).consume (rest.take offset)).position

end Tracker

namespace Lexer

variable {definitions : List Definition} {text : Text} {k offset : Nat}

theorem rest_ofOffset_drop (text : Text) (k offset : Nat) :
    (Place.ofOffset (text.drop k) offset).rest = (Place.ofOffset text (k + offset)).rest := by
  rw [Place.rest_ofOffset, Place.rest_ofOffset, List.drop_drop]

theorem inside_of_drop (within : k ≤ text.length) (inside : offset ≤ (text.drop k).length) :
    k + offset ≤ text.length := by
  rw [List.length_drop] at inside
  omega

theorem matchAt_drop_eq_ok_iff {definition : Definition} (reads : definition.ReadsRest)
    (within : k ≤ text.length) (inside : offset ≤ (text.drop k).length) {answer : Option Match} :
    definition.matchAt (text.drop k) offset (Tracker.atOffset (text.drop k) offset) = .ok answer ↔
      definition.matchAt text (k + offset : Nat) (Tracker.atOffset text (k + offset)) =
        .ok answer := by
  rw [Definition.matchAt_natCast _ _ inside,
    Definition.matchAt_natCast _ _ (inside_of_drop within inside)]
  exact reads.matchHere_eq_ok_iff (rest_ofOffset_drop text k offset) _ _

theorem matchAt_drop_eq_unmatched {definition : Definition} (reads : definition.ReadsRest)
    (within : k ≤ text.length) (inside : offset ≤ (text.drop k).length) {report : Unmatched}
    (failed : definition.matchAt (text.drop k) offset (Tracker.atOffset (text.drop k) offset) =
      .error (.unmatched report)) :
    definition.matchAt text (k + offset : Nat) (Tracker.atOffset text (k + offset)) =
      .error (.unmatched report) := by
  rw [Definition.matchAt_natCast _ _ inside] at failed
  rw [Definition.matchAt_natCast _ _ (inside_of_drop within inside)]
  exact reads.matchHere_eq_unmatched (rest_ofOffset_drop text k offset) _ failed

/-! ## Cuts of the rest of a text -/

/-- A cut of the rest of a text, as a cut of the whole text. -/
def Link.further (k : Nat) (link : Link) : Link :=
  { link with start := k + link.start, stop := k + link.stop }

section Cuts

variable (reads : ∀ definition ∈ definitions, definition.ReadsRest) (within : k ≤ text.length)
include reads within

theorem declines_further {earlier : List Definition}
    (listed : ∀ definition ∈ earlier, definition ∈ definitions)
    (inside : offset ≤ (text.drop k).length) (declined : Declines (text.drop k) offset earlier) :
    Declines text (k + offset) earlier := fun definition member =>
  (matchAt_drop_eq_ok_iff (reads definition (listed definition member)) within inside).mp
    (declined definition member)

theorem reaches_further {definition : Definition} (inside : offset ≤ (text.drop k).length)
    (reached : Reaches definitions (text.drop k) offset definition) :
    Reaches definitions text (k + offset) definition := by
  obtain ⟨earlier, later, split, declined⟩ := reached
  refine ⟨earlier, later, split, declines_further reads within (fun other member => ?_) inside
    declined⟩
  rw [split]
  exact List.mem_append_left _ member

theorem isLink_further {link : Link} (valid : IsLink definitions (text.drop k) link) :
    IsLink definitions text (link.further k) := by
  have forward := valid.forward
  have inside := valid.inside
  have started := valid.within
  refine ⟨reaches_further reads within started valid.reached, ?_, Nat.add_lt_add_left forward k,
    inside_of_drop within inside, ?_, valid.carried⟩
  · exact (matchAt_drop_eq_ok_iff (reads _ valid.reached.mem) within started).mp valid.matched
  · have width : k + link.stop - (k + link.start) = link.stop - link.start := by omega
    rw [Link.further, valid.consumed, Text.slice, Text.slice, List.drop_drop, width]

theorem chain_further {start stop : Nat} {links : List Link}
    (chain : Chain definitions (text.drop k) start links stop) :
    Chain definitions text (k + start) (links.map (Link.further k)) (k + stop) := by
  induction chain with
  | done offset => exact .done _
  | link starts first _ ih =>
      exact .link (congrArg (k + ·) starts) (isLink_further reads within first) ih

/-- Where the cutting of the rest fails, so does that of the whole text. -/
theorem fails_further {fault : Fault} (inside : offset ≤ (text.drop k).length)
    (failed : Fails definitions (text.drop k) offset fault) :
    ∃ fault', Fails definitions text (k + offset) fault' := by
  cases failed with
  | unmatched declined =>
      exact ⟨_, .unmatched (declines_further reads within (fun _ member => member) inside declined)⟩
  | raised raises =>
      cases raises with
      | @matching definition _ reached failed =>
          have further := reaches_further reads within inside reached
          cases result : definition.matchAt text (k + offset : Nat)
              (Tracker.atOffset text (k + offset)) with
          | error fault' => exact ⟨fault', .raised (.matching further result)⟩
          | ok answer =>
              have here := (matchAt_drop_eq_ok_iff (reads _ reached.mem) within inside).mpr result
              rw [here] at failed
              cases failed
      | interpreting reached matched given failed =>
          have further := reaches_further reads within inside reached
          have here := (matchAt_drop_eq_ok_iff (reads _ reached.mem) within inside).mp matched
          exact ⟨_, .raised (.interpreting further here given failed)⟩

/-- A report of unmatched text that a function of a caller makes stays as it is. -/
theorem raises_unmatched_further {report : Unmatched} (inside : offset ≤ (text.drop k).length)
    (raises : Raises definitions (text.drop k) offset (.unmatched report)) :
    Raises definitions text (k + offset) (.unmatched report) := by
  cases raises with
  | matching reached failed =>
      exact .matching (reaches_further reads within inside reached)
        (matchAt_drop_eq_unmatched (reads _ reached.mem) within inside failed)
  | interpreting reached matched given failed =>
      have here := (matchAt_drop_eq_ok_iff (reads _ reached.mem) within inside).mp matched
      exact .interpreting (reaches_further reads within inside reached) here given failed

end Cuts

end Lexer

/-- A token of the rest of a text, with its position counted from the start of the whole text. -/
def Token.rebase (base : Tracker) (next : Option Char) (token : Token) : Token :=
  let position := base.rebase next token.line token.character
  { token with line := position.1, character := position.2 }

/-- A report of the rest of a text, with its position counted from the start of the whole text. -/
def Unmatched.rebase (base : Tracker) (next : Option Char) (report : Unmatched) : Unmatched :=
  let position := base.rebase next report.line.toNat report.character.toNat
  { report with line := position.1, character := position.2 }

namespace Lexer

variable {definitions : List Definition} {text : Text} {k offset : Nat}

theorem token?_further (text : Text) (k : Nat) (link : Link) :
    (link.further k).token? text =
      (link.token? (text.drop k)).map (Token.rebase (Tracker.atOffset text k) text[k]?) := by
  have position := Tracker.position_atOffset text k link.start
  unfold Link.token?
  cases ignored : link.definition.ignore with
  | true => simp [Link.further, ignored]
  | false =>
      simp only [Link.further, ignored, Bool.false_eq_true, if_false, Option.map_some, Token.rebase,
        ← position]

theorem tokensAlong_further (text : Text) (k : Nat) (links : List Link) :
    tokensAlong text (links.map (Link.further k)) =
      (tokensAlong (text.drop k) links).map (Token.rebase (Tracker.atOffset text k) text[k]?) := by
  rw [tokensAlong, tokensAlong, List.filterMap_map, List.map_filterMap]
  exact congrArg (List.filterMap · links) (funext fun link => token?_further text k link)

theorem unmatchedReport_further (text : Text) (k offset : Nat) :
    unmatchedReport text (k + offset) =
      (unmatchedReport (text.drop k) offset).rebase (Tracker.atOffset text k) text[k]? := by
  have position := Tracker.position_atOffset text k offset
  have width : k + offset + 15 - (k + offset) = offset + 15 - offset := by omega
  simp only [unmatchedReport, Unmatched.rebase, Int.toNat_natCast, ← position, Text.slice,
    List.drop_drop, width]

theorem tokensAlong_append (text : Text) (first second : List Link) :
    tokensAlong text (first ++ second) = tokensAlong text first ++ tokensAlong text second :=
  List.filterMap_append

theorem Chain.inside {start stop : Nat} {links : List Link}
    (chain : Chain definitions text start links stop) (within : start ≤ text.length) :
    stop ≤ text.length := by
  induction chain with
  | done offset => exact within
  | link starts first _ ih => exact ih first.inside

variable {lexer : Lexer} {links : List Link}

/-- A lexer that cuts the rest of a text cuts the whole text alike behind what it cut before. -/
theorem tokenize_of_drop (registered : lexer.patterns ≠ [])
    (reads : ∀ definition ∈ lexer.patterns, definition.ReadsRest)
    (chain : Chain lexer.patterns text 0 links k) {later : List Token}
    (cut : lexer.tokenize (.str (text.drop k)) = .ok later) :
    lexer.tokenize (.str text) = .ok (tokensAlong text links ++
      later.map (Token.rebase (Tracker.atOffset text k) text[k]?)) := by
  have within : k ≤ text.length := chain.inside (Nat.zero_le _)
  obtain ⟨cuts, rest, rfl⟩ := (tokenize_eq_ok_iff registered).mp cut
  have further := chain_further reads within rest
  rw [Nat.add_zero, List.length_drop, Nat.add_sub_cancel' within] at further
  refine (tokenize_eq_ok_iff registered).mpr ⟨_, chain.trans further, ?_⟩
  rw [tokensAlong_append, tokensAlong_further]

/-- What fails the cutting of the rest of a text behind a chain fails that of the whole text. -/
theorem tokenize_error_further (registered : lexer.patterns ≠ [])
    (reads : ∀ definition ∈ lexer.patterns, definition.ReadsRest)
    (chain : Chain lexer.patterns text 0 links k) {cuts : List Link}
    (rest : Chain lexer.patterns (text.drop k) 0 cuts offset)
    (short : offset < (text.drop k).length) {fault : Fault}
    (failed : Fails lexer.patterns text (k + offset) fault) :
    lexer.tokenize (.str text) = .error fault := by
  have within : k ≤ text.length := chain.inside (Nat.zero_le _)
  have further := chain_further reads within rest
  rw [List.length_drop] at short
  exact (tokenize_eq_error_iff registered).mpr
    ⟨_, k + offset, chain.trans further, by omega, failed⟩

/--
A lexer of consumers that has reached an offset of a text, or its end, can be
started again there.  It succeeds on the whole text exactly if it does on the rest,
and its tokens are those it made before and those of the rest, with their positions
counted on.  A report of unmatched text in the rest comes with the same preview and
its position counted on, unless a function of a caller made the report.
-/
theorem tokenize_restart (lexer : Lexer) (text : Text) (k : Nat) (links : List Link)
    (consumers : ∀ definition ∈ lexer.patterns, ∃ consume, definition.matcher = .consumer consume)
    (chain : Chain lexer.patterns text 0 links k) :
    ((∃ tokens, lexer.tokenize (.str text) = .ok tokens) ↔
      ∃ later, lexer.tokenize (.str (text.drop k)) = .ok later) ∧
    (∀ later, lexer.tokenize (.str (text.drop k)) = .ok later →
      lexer.tokenize (.str text) = .ok (tokensAlong text links ++
        later.map (Token.rebase (Tracker.atOffset text k) text[k]?))) ∧
    (∀ report, lexer.tokenize (.str (text.drop k)) = .error (.unmatched report) →
      (∃ cuts offset, Chain lexer.patterns (text.drop k) 0 cuts offset ∧
        Declines (text.drop k) offset lexer.patterns ∧
        report = unmatchedReport (text.drop k) offset ∧
        lexer.tokenize (.str text) =
          .error (.unmatched (report.rebase (Tracker.atOffset text k) text[k]?))) ∨
      (∃ cuts offset, Chain lexer.patterns (text.drop k) 0 cuts offset ∧
        Raises lexer.patterns (text.drop k) offset (.unmatched report)) ∧
        lexer.tokenize (.str text) = .error (.unmatched report)) := by
  by_cases registered : lexer.patterns = []
  · simp [tokenize, registered]
  have within : k ≤ text.length := chain.inside (Nat.zero_le _)
  have reads : ∀ definition ∈ lexer.patterns, definition.ReadsRest := by
    intro definition listed
    obtain ⟨consume, given⟩ := consumers definition listed
    exact Definition.readsRest_consumer given
  refine ⟨⟨?_, ?_⟩, fun later => tokenize_of_drop registered reads chain, ?_⟩
  · rintro ⟨tokens, cut⟩
    cases rest : lexer.tokenize (.str (text.drop k)) with
    | ok later => exact ⟨later, rfl⟩
    | error fault =>
        obtain ⟨cuts, offset, further, short, failed⟩ := (tokenize_eq_error_iff registered).mp rest
        obtain ⟨fault', failed'⟩ := fails_further reads within (Nat.le_of_lt short) failed
        have stuck := tokenize_error_further registered reads chain further short failed'
        cases cut.symm.trans stuck
  · rintro ⟨later, cut⟩
    exact ⟨_, tokenize_of_drop registered reads chain cut⟩
  · intro report failed
    obtain ⟨cuts, offset, further, short, fails⟩ := (tokenize_eq_error_iff registered).mp failed
    have inside := Nat.le_of_lt short
    rcases fails_unmatched_iff.mp fails with ⟨declined, rfl⟩ | raises
    · refine .inl ⟨cuts, offset, further, declined, rfl, ?_⟩
      rw [← unmatchedReport_further]
      exact tokenize_error_further registered reads chain further short
        (.unmatched (declines_further reads within (fun _ member => member) inside declined))
    · exact .inr ⟨⟨cuts, offset, further, raises⟩,
        tokenize_error_further registered reads chain further short
          (.raised (raises_unmatched_further reads within inside raises))⟩

/-- The offset stands inside a line break, which only the first run sees begin. -/
theorem tokenize_restart_blanksAndSingles :
    (∀ definition ∈ blanksAndSingles.patterns,
        ∃ consume, definition.matcher = .consumer consume) ∧
      ∃ links, Chain blanksAndSingles.patterns ['a', '\r', '\n', 'b'] 0 links 2 ∧
        blanksAndSingles.tokenize (.str ['\n', 'b']) =
          .ok [⟨.int 1, ['s'], 1, 1⟩, ⟨.int 1, ['s'], 2, 1⟩] ∧
        blanksAndSingles.tokenize (.str ['a', '\r', '\n', 'b']) =
          .ok (tokensAlong ['a', '\r', '\n', 'b'] links ++
            [⟨.int 1, ['s'], 2, 1⟩, ⟨.int 1, ['s'], 2, 1⟩]) := by
  have consumers : ∀ definition ∈ blanksAndSingles.patterns,
      ∃ consume, definition.matcher = .consumer consume := by
    simp [blanksAndSingles]
  have first : IsLink blanksAndSingles.patterns ['a', '\r', '\n', 'b']
      ⟨blanksAndSingles.patterns[1], 0, 1, ⟨['a'], .bool true, .none⟩, .int 1⟩ := by
    refine ⟨⟨[blanksAndSingles.patterns[0]], [], rfl, List.forall_mem_singleton.mpr ?_⟩, ?_,
      by decide, by decide, rfl, .interpreted rfl rfl⟩
    · rfl
    · rfl
  have second : IsLink blanksAndSingles.patterns ['a', '\r', '\n', 'b']
      ⟨blanksAndSingles.patterns[1], 1, 2, ⟨['\r'], .bool true, .none⟩, .int 1⟩ := by
    refine ⟨⟨[blanksAndSingles.patterns[0]], [], rfl, List.forall_mem_singleton.mpr ?_⟩, ?_,
      by decide, by decide, rfl, .interpreted rfl rfl⟩
    · rfl
    · rfl
  have chain : Chain blanksAndSingles.patterns ['a', '\r', '\n', 'b'] 0 _ 2 :=
    .link rfl first (.link rfl second (.done 2))
  have later : blanksAndSingles.tokenize (.str ['\n', 'b']) =
      .ok [⟨.int 1, ['s'], 1, 1⟩, ⟨.int 1, ['s'], 2, 1⟩] := by cbv
  exact ⟨consumers, _, chain, later,
    (tokenize_restart blanksAndSingles _ 2 _ consumers chain).2.1 _ later⟩

end Lexer

end Lexwork
