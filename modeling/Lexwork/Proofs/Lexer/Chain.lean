import Lexwork.Lexer
import Lexwork.Proofs.Cut

/-!
# Chains of matches

A chain says, without running a lexer, how a text is cut.  Each link names the
definition that wins at an offset: every earlier definition declines there, and
its own match is the text up to the next offset.  A chain either reaches the end
of the text or an offset where the cutting fails, and there is never a second
one.  What a lexer returns or how it fails is read off that chain alone.
-/

namespace Lexwork

namespace Text

def slice (text : Text) (start stop : Nat) : Text :=
  (text.drop start).take (stop - start)

theorem slice_of_prefix {text piece : Text} {offset : Nat} (stands : piece <+: text.drop offset) :
    text.slice offset (offset + piece.length) = piece := by
  unfold slice
  rw [Nat.add_sub_cancel_left]
  exact (List.prefix_iff_eq_take.mp stands).symm

theorem length_slice {text : Text} {start stop : Nat} (inside : stop ≤ text.length) :
    (text.slice start stop).length = stop - start := by
  unfold slice
  rw [List.length_take, List.length_drop]
  omega

theorem take_append_slice {text : Text} {start stop : Nat} (ordered : start ≤ stop) :
    text.take start ++ text.slice start stop = text.take stop := by
  have sum : start + (stop - start) = stop := Nat.add_sub_of_le ordered
  calc
    text.take start ++ text.slice start stop = text.take (start + (stop - start)) :=
      List.take_add.symm
    _ = text.take stop := by rw [sum]

end Text

/-- A fresh tracker that has moved past the text before an offset. -/
def Tracker.atOffset (text : Text) (offset : Nat) : Tracker :=
  ({} : Tracker).consume (text.take offset)

theorem Tracker.atOffset_consume_slice {text : Text} {start stop : Nat} (ordered : start ≤ stop) :
    (Tracker.atOffset text start).consume (text.slice start stop) = Tracker.atOffset text stop := by
  unfold Tracker.atOffset
  rw [← Tracker.consume_append, Text.take_append_slice ordered]

namespace Place

theorem advance_ofOffset (text : Text) (offset count : Nat) :
    (ofOffset text offset).advance count = ofOffset text (offset + count) :=
  advance_advance offset count (start text)

end Place

/-- The content of the token for a match, by the three sources it may have. -/
inductive Definition.Carries (definition : Definition) (found : Match) : Value → Prop
  | interpreted {interpret : Interpreter} {content : Value}
      (given : definition.interpret = some interpret)
      (returned : interpret found.consumed = .ok content) :
      Carries definition found content
  | reported (absent : definition.interpret = none) (given : found.content ≠ .none) :
      Carries definition found found.content
  | consumed (absent : definition.interpret = none) (missing : found.content = .none) :
      Carries definition found (.str found.consumed)

namespace Lexer

/-- Every definition of a list is asked at an offset and does not match. -/
def Declines (text : Text) (offset : Nat) (definitions : List Definition) : Prop :=
  ∀ definition ∈ definitions,
    definition.matchAt text offset (Tracker.atOffset text offset) = .ok none

/-- A definition is the first of a list that does not decline at an offset. -/
def Reaches (definitions : List Definition) (text : Text) (offset : Nat)
    (definition : Definition) : Prop :=
  ∃ earlier later, definitions = earlier ++ definition :: later ∧ Declines text offset earlier

/-- One cut of a text, with the match that made it and the content of its token. -/
structure Link where
  definition : Definition
  start : Nat
  stop : Nat
  found : Match
  content : Value

/-- A cut that the definitions make: the first match, over the text between its offsets. -/
structure IsLink (definitions : List Definition) (text : Text) (link : Link) : Prop where
  reached : Reaches definitions text link.start link.definition
  matched : link.definition.matchAt text link.start (Tracker.atOffset text link.start) =
    .ok (some link.found)
  forward : link.start < link.stop
  inside : link.stop ≤ text.length
  consumed : link.found.consumed = text.slice link.start link.stop
  carried : link.definition.Carries link.found link.content

/-- Links that lead from one offset to another. -/
inductive Chain (definitions : List Definition) (text : Text) : Nat → List Link → Nat → Prop
  | done (offset : Nat) : Chain definitions text offset [] offset
  | link {start stop : Nat} {link : Link} {links : List Link} (starts : link.start = start)
      (first : IsLink definitions text link)
      (rest : Chain definitions text link.stop links stop) :
      Chain definitions text start (link :: links) stop

/-- The token of a link, unless its definition is ignored. -/
def Link.token? (text : Text) (link : Link) : Option Token :=
  if link.definition.ignore then none
  else
    let tracker := Tracker.atOffset text link.start
    some ⟨link.content, link.definition.name, tracker.line, tracker.character⟩

def tokensAlong (text : Text) (links : List Link) : List Token :=
  links.filterMap (Link.token? text)

/-- The report of an offset where every definition declines. -/
def unmatchedReport (text : Text) (offset : Nat) : Unmatched :=
  let tracker := Tracker.atOffset text offset
  ⟨Text.visible (text.slice offset (offset + 15)), tracker.line, tracker.character⟩

/--
How the functions of a caller fail a cut: matching fails where no earlier
definition matches, or the interpreter of the winning definition fails.
-/
inductive Raises (definitions : List Definition) (text : Text) (offset : Nat) : Fault → Prop
  | matching {definition : Definition} {fault : Fault}
      (reached : Reaches definitions text offset definition)
      (failed : definition.matchAt text offset (Tracker.atOffset text offset) = .error fault) :
      Raises definitions text offset fault
  | interpreting {definition : Definition} {found : Match} {interpret : Interpreter}
      {fault : Fault} (reached : Reaches definitions text offset definition)
      (matched : definition.matchAt text offset (Tracker.atOffset text offset) =
        .ok (some found))
      (given : definition.interpret = some interpret)
      (failed : interpret found.consumed = .error fault) :
      Raises definitions text offset fault

/-- How a cut fails: nothing matches, or a function of a caller fails. -/
inductive Fails (definitions : List Definition) (text : Text) (offset : Nat) : Fault → Prop
  | unmatched (declined : Declines text offset definitions) :
      Fails definitions text offset (.unmatched (unmatchedReport text offset))
  | raised {fault : Fault} (raises : Raises definitions text offset fault) :
      Fails definitions text offset fault

/-! ## There is one chain -/

theorem Reaches.unique {definitions : List Definition} {text : Text} {offset : Nat}
    {first second : Definition} (left : Reaches definitions text offset first)
    (right : Reaches definitions text offset second)
    (firstActs : first.matchAt text offset (Tracker.atOffset text offset) ≠ .ok none)
    (secondActs : second.matchAt text offset (Tracker.atOffset text offset) ≠ .ok none) :
    first = second := by
  obtain ⟨earlier, later, split, declined⟩ := left
  obtain ⟨earlier', later', split', declined'⟩ := right
  rcases cut_trichotomy (split.symm.trans split') with ⟨_, same, _⟩ | ⟨inside, _⟩ | ⟨inside, _⟩
  · exact same
  · exact absurd (declined' first inside) firstActs
  · exact absurd (declined second inside) secondActs

end Lexer

namespace Definition

theorem contentOf_eq_ok_iff {definition : Definition} {found : Match} {content : Value} :
    definition.contentOf found = .ok content ↔ definition.Carries found content := by
  unfold contentOf
  constructor
  · intro returned
    cases given : definition.interpret with
    | some interpret =>
        rw [given] at returned
        exact .interpreted given returned
    | none =>
        simp only [given, Except.ok.injEq] at returned
        subst returned
        cases reported : found.content with
        | none => simpa [Value.isNone] using Carries.consumed given reported
        | _ =>
            have source : definition.Carries found found.content :=
              .reported given (by simp [reported])
            simpa [Value.isNone, reported] using source
  · intro carried
    cases carried with
    | interpreted given returned =>
        rw [given]
        exact returned
    | reported absent given =>
        rw [absent]
        cases reported : found.content with
        | none => exact absurd reported given
        | _ => rfl
    | consumed absent missing => simp [absent, missing, Value.isNone]

/-- The content of a match fails exactly if its interpreter does. -/
theorem contentOf_eq_error_iff {definition : Definition} {found : Match} {fault : Fault} :
    definition.contentOf found = .error fault ↔
      ∃ interpret, definition.interpret = some interpret ∧
        interpret found.consumed = .error fault := by
  unfold contentOf
  cases given : definition.interpret with
  | none => simp
  | some interpret => simp

theorem Carries.unique {definition : Definition} {found : Match} {first second : Value}
    (left : definition.Carries found first) (right : definition.Carries found second) :
    first = second := by
  have same := (contentOf_eq_ok_iff.mpr left).symm.trans (contentOf_eq_ok_iff.mpr right)
  exact Except.ok.inj same

end Definition

namespace Lexer

variable {definitions : List Definition} {text : Text}

theorem Reaches.mem {definition : Definition}
    (reached : Reaches definitions text offset definition) : definition ∈ definitions := by
  obtain ⟨earlier, later, rfl, -⟩ := reached
  exact List.mem_append_right _ (List.mem_cons_self ..)

theorem IsLink.stop_eq {link : Link} (valid : IsLink definitions text link) :
    link.stop = link.start + link.found.consumed.length := by
  have forward := valid.forward
  rw [valid.consumed, Text.length_slice valid.inside]
  omega

theorem IsLink.unique {first second : Link} (left : IsLink definitions text first)
    (right : IsLink definitions text second) (starts : first.start = second.start) :
    first = second := by
  have leftStop := left.stop_eq
  have rightStop := right.stop_eq
  obtain ⟨reached, matched, _, _, _, carried⟩ := left
  obtain ⟨reached', matched', _, _, _, carried'⟩ := right
  rcases first with ⟨definition, start, stop, found, content⟩
  rcases second with ⟨definition', start', stop', found', content'⟩
  dsimp only at *
  subst starts
  have sameDefinition : definition = definition' := by
    apply Reaches.unique reached reached'
    · rw [matched]
      simp
    · rw [matched']
      simp
  subst sameDefinition
  have sameFound : found = found' := by
    have same := matched.symm.trans matched'
    simpa using same
  subst sameFound
  have sameContent : content = content' := carried.unique carried'
  rw [leftStop, rightStop, sameContent]

theorem IsLink.within {link : Link} (valid : IsLink definitions text link) :
    link.start ≤ text.length :=
  Nat.le_trans (Nat.le_of_lt valid.forward) valid.inside

theorem IsLink.matchedHere {link : Link} (valid : IsLink definitions text link) :
    link.definition.matchHere (.ofOffset text link.start) (.atOffset text link.start) =
      .ok (some link.found) := by
  rw [← Definition.matchAt_natCast _ _ valid.within]
  exact valid.matched

theorem IsLink.drop_start {link : Link} (valid : IsLink definitions text link) :
    text.drop link.start = link.found.consumed ++ text.drop link.stop := by
  have sum : link.start + (link.stop - link.start) = link.stop :=
    Nat.add_sub_of_le (Nat.le_of_lt valid.forward)
  calc
    text.drop link.start =
        (text.drop link.start).take (link.stop - link.start) ++
          (text.drop link.start).drop (link.stop - link.start) :=
      (List.take_append_drop ..).symm
    _ = link.found.consumed ++ text.drop link.stop := by
      rw [valid.consumed, Text.slice, List.drop_drop, sum]

/-- A definition that stands before that of a link has declined where the link starts. -/
theorem IsLink.declined_of_mem {link : Link} (valid : IsLink definitions text link)
    {earlier later : List Definition} (split : definitions = earlier ++ link.definition :: later)
    (first : link.definition ∉ earlier) {other : Definition} (before : other ∈ earlier) :
    other.matchHere (.ofOffset text link.start) (.atOffset text link.start) = .ok none := by
  obtain ⟨earlier', later', split', declined⟩ := valid.reached
  rcases cut_trichotomy (split.symm.trans split') with ⟨same, _⟩ | ⟨inside, _⟩ | ⟨inside, _⟩
  · rw [← Definition.matchAt_natCast _ _ valid.within]
    exact declined other (same ▸ before)
  · have own := declined link.definition inside
    rw [valid.matched] at own
    cases own
  · exact absurd inside first

theorem Chain.unique {start : Nat} {links others : List Link}
    (left : Chain definitions text start links text.length)
    (right : Chain definitions text start others text.length) : links = others := by
  induction links generalizing start others with
  | nil =>
      cases left
      cases right with
      | done => rfl
      | link starts first rest =>
          have forward := first.forward
          have inside := first.inside
          omega
  | cons head tail ih =>
      cases left with
      | link starts first rest =>
          cases right with
          | done =>
              have forward := first.forward
              have inside := first.inside
              omega
          | link starts' first' rest' =>
              have same := first.unique first' (starts.trans starts'.symm)
              subst same
              rw [ih rest rest']

/-- What a lexer does from an offset on, having cut the text before it. -/
def scanFrom (definitions : List Definition) (text : Text) (offset : Nat) :
    Except Fault (List Token) :=
  scan definitions (.ofOffset text offset) (.atOffset text offset)

theorem firstMatch_of_declines {place : Place} {tracker : Tracker} {earlier : List Definition}
    (declined : ∀ definition ∈ earlier, definition.matchHere place tracker = .ok none)
    (later : List Definition) :
    firstMatch place tracker (earlier ++ later) = firstMatch place tracker later := by
  induction earlier with
  | nil => rfl
  | cons head tail ih =>
      have headDeclines := declined head (List.mem_cons_self ..)
      have tailDeclines := ih fun definition inside =>
        declined definition (List.mem_cons_of_mem _ inside)
      simp only [List.cons_append, firstMatch, headDeclines]
      exact tailDeclines

theorem declines_or_reaches (definitions : List Definition) (text : Text) (offset : Nat) :
    Declines text offset definitions ∨
      ∃ definition, Reaches definitions text offset definition ∧
        definition.matchAt text offset (Tracker.atOffset text offset) ≠ .ok none := by
  induction definitions with
  | nil => exact .inl fun _ inside => absurd inside List.not_mem_nil
  | cons head tail ih =>
      by_cases headDeclines :
          head.matchAt text offset (Tracker.atOffset text offset) = .ok none
      · rcases ih with declined | ⟨definition, ⟨earlier, later, split, declined⟩, acts⟩
        · refine .inl fun definition inside => ?_
          rcases List.mem_cons.mp inside with rfl | inTail
          · exact headDeclines
          · exact declined definition inTail
        · refine .inr ⟨definition, ⟨head :: earlier, later, by rw [split]; rfl, ?_⟩, acts⟩
          intro other inside
          rcases List.mem_cons.mp inside with rfl | inEarlier
          · exact headDeclines
          · exact declined other inEarlier
      · exact .inr ⟨head, ⟨[], tail, rfl, fun _ inside => absurd inside List.not_mem_nil⟩,
          headDeclines⟩

/-- At the end of the text there is nothing left to cut. -/
theorem scanFrom_length (definitions : List Definition) (text : Text) :
    scanFrom definitions text text.length = .ok [] := by
  have ended : (Place.ofOffset text text.length).rest = [] := by simp
  rw [scanFrom, scan, if_pos ended]

/-- Before the end of the text, a lexer asks its definitions, then makes a token and goes on. -/
theorem scan_eq_of_rest {place : Place} (more : place.rest ≠ []) (tracker : Tracker) :
    scan definitions place tracker =
      match firstMatch place tracker definitions with
      | .error fault => .error fault
      | .ok none => .error (unmatchedAt place tracker)
      | .ok (some (definition, found)) =>
          match definition.contentOf found with
          | .error fault => .error fault
          | .ok content =>
              (scan definitions (place.advance found.consumed.length)
                  (tracker.consume found.consumed)).map
                (tokensOf definition content tracker ++ ·) := by
  rw [scan, if_neg more]
  split
  · rename_i first
    rw [first]
  · rename_i first
    rw [first]
  · rename_i definition found first
    rw [first]
    dsimp only
    cases definition.contentOf found with
    | error fault => rfl
    | ok content =>
        dsimp only
        cases scan definitions (place.advance found.consumed.length)
            (tracker.consume found.consumed) with
        | error fault => rfl
        | ok tokens => rfl

theorem rest_ofOffset_ne_nil {offset : Nat} (inside : offset < text.length) :
    (Place.ofOffset text offset).rest ≠ [] := by
  intro empty
  have short := congrArg List.length empty
  simp only [Place.rest_ofOffset, List.length_drop, List.length_nil] at short
  omega

theorem firstMatch_eq_none {offset : Nat} (inside : offset ≤ text.length)
    (declined : Declines text offset definitions) :
    firstMatch (.ofOffset text offset) (.atOffset text offset) definitions = .ok none := by
  have here : ∀ definition ∈ definitions,
      definition.matchHere (.ofOffset text offset) (.atOffset text offset) = .ok none := by
    intro definition member
    rw [← Definition.matchAt_natCast definition _ inside]
    exact declined definition member
  simpa [firstMatch] using firstMatch_of_declines here []

/-- Asking the definitions in turn, the first that does not decline decides. -/
theorem firstMatch_of_reaches {offset : Nat} {definition : Definition}
    (inside : offset ≤ text.length) (reached : Reaches definitions text offset definition)
    (acts : definition.matchAt text offset (Tracker.atOffset text offset) ≠ .ok none) :
    firstMatch (.ofOffset text offset) (.atOffset text offset) definitions =
      (definition.matchAt text offset (Tracker.atOffset text offset)).map
        (Option.map (definition, ·)) := by
  obtain ⟨earlier, later, split, declined⟩ := reached
  have here : ∀ other ∈ earlier,
      other.matchHere (.ofOffset text offset) (.atOffset text offset) = .ok none := by
    intro other member
    rw [← Definition.matchAt_natCast other _ inside]
    exact declined other member
  rw [split, firstMatch_of_declines here, firstMatch,
    ← Definition.matchAt_natCast definition _ inside]
  cases result : definition.matchAt text offset (Tracker.atOffset text offset) with
  | error fault => rfl
  | ok found =>
      cases found with
      | none => exact absurd result acts
      | some found => rfl

theorem scanFrom_of_fails {offset : Nat} {fault : Fault} (inside : offset < text.length)
    (failed : Fails definitions text offset fault) :
    scanFrom definitions text offset = .error fault := by
  rw [scanFrom, scan_eq_of_rest (rest_ofOffset_ne_nil inside)]
  cases failed with
  | unmatched declined =>
      rw [firstMatch_eq_none (Nat.le_of_lt inside) declined]
      simp [unmatchedAt, unmatchedReport, Text.slice, previewLength]
  | raised raises =>
      cases raises with
      | matching reached failed =>
          rw [firstMatch_of_reaches (Nat.le_of_lt inside) reached (by simp [failed]), failed]
          rfl
      | interpreting reached matched given failed =>
          rw [firstMatch_of_reaches (Nat.le_of_lt inside) reached (by simp [matched]), matched]
          have content := Definition.contentOf_eq_error_iff.mpr ⟨_, given, failed⟩
          simp only [Except.map, Option.map, content]

theorem scanFrom_of_isLink {link : Link} (valid : IsLink definitions text link) :
    scanFrom definitions text link.start =
      (scanFrom definitions text link.stop).map ((link.token? text).toList ++ ·) := by
  have inside : link.start < text.length := Nat.lt_of_lt_of_le valid.forward valid.inside
  have content := Definition.contentOf_eq_ok_iff.mpr valid.carried
  have tracker : (Tracker.atOffset text link.start).consume (text.slice link.start link.stop) =
      Tracker.atOffset text link.stop :=
    Tracker.atOffset_consume_slice (Nat.le_of_lt valid.forward)
  have tokens : tokensOf link.definition link.content (.atOffset text link.start) =
      (link.token? text).toList := by
    unfold tokensOf Link.token?
    cases link.definition.ignore <;> rfl
  rw [scanFrom, scan_eq_of_rest (rest_ofOffset_ne_nil inside),
    firstMatch_of_reaches (Nat.le_of_lt inside) valid.reached (by simp [valid.matched]),
    valid.matched]
  simp only [Except.map, Option.map, content]
  rw [Place.advance_ofOffset, ← valid.stop_eq, valid.consumed, tracker, tokens]
  rfl

/-- A match of the first definition that does not decline makes a link, if it has a content. -/
theorem isLink_of_matched {offset : Nat} {definition : Definition} {found : Match}
    {content : Value} (inside : offset ≤ text.length)
    (reached : Reaches definitions text offset definition)
    (matched : definition.matchAt text offset (Tracker.atOffset text offset) = .ok (some found))
    (carried : definition.Carries found content) :
    IsLink definitions text
      ⟨definition, offset, offset + found.consumed.length, found, content⟩ := by
  have here := matched
  rw [Definition.matchAt_natCast definition _ inside] at here
  obtain ⟨nonempty, stands⟩ := Definition.matchHere_eq_some here
  rw [Place.rest_ofOffset] at stands
  have positive := List.length_pos_iff.mpr nonempty
  have short := stands.length_le
  rw [List.length_drop] at short
  refine ⟨reached, matched, ?_, ?_, ?_, carried⟩
  · exact Nat.lt_add_of_pos_right positive
  · dsimp only
    omega
  · exact (Text.slice_of_prefix stands).symm

theorem fails_or_isLink (definitions : List Definition) {offset : Nat}
    (inside : offset < text.length) :
    (∃ fault, Fails definitions text offset fault) ∨
      ∃ link : Link, link.start = offset ∧ IsLink definitions text link := by
  rcases declines_or_reaches definitions text offset with declined | ⟨definition, reached, acts⟩
  · exact .inl ⟨_, .unmatched declined⟩
  · cases result : definition.matchAt text offset (Tracker.atOffset text offset) with
    | error fault => exact .inl ⟨fault, .raised (.matching reached result)⟩
    | ok answer =>
        cases answer with
        | none => exact absurd result acts
        | some found =>
            cases contents : definition.contentOf found with
            | error fault =>
                obtain ⟨interpret, given, failed⟩ := Definition.contentOf_eq_error_iff.mp contents
                exact .inl ⟨fault, .raised (.interpreting reached result given failed)⟩
            | ok content =>
                have carried := Definition.contentOf_eq_ok_iff.mp contents
                have valid := isLink_of_matched (Nat.le_of_lt inside) reached result carried
                exact .inr ⟨_, rfl, valid⟩

/-! ## Whole runs of a lexer -/

/-- A lexer makes the tokens of a chain and goes on where it stops. -/
theorem scanFrom_of_chain {start stop : Nat} {links : List Link}
    (chain : Chain definitions text start links stop) :
    scanFrom definitions text start =
      (scanFrom definitions text stop).map (tokensAlong text links ++ ·) := by
  induction chain with
  | done offset =>
      cases scanFrom definitions text offset with
      | error fault => rfl
      | ok tokens => rfl
  | @link start stop link links starts first rest ih =>
      have split : tokensAlong text (link :: links) =
          (link.token? text).toList ++ tokensAlong text links := by
        unfold tokensAlong
        rw [List.filterMap_cons]
        cases link.token? text <;> rfl
      rw [← starts, scanFrom_of_isLink first, ih, split]
      cases scanFrom definitions text stop with
      | error fault => rfl
      | ok tokens => simp [Except.map]

theorem chain_or_fails (definitions : List Definition) {text : Text} {start : Nat}
    (inside : start ≤ text.length) :
    (∃ links, Chain definitions text start links text.length) ∨
      ∃ links offset fault, Chain definitions text start links offset ∧
        offset < text.length ∧ Fails definitions text offset fault := by
  -- The induction is on what is left of the text: every link takes some of it.
  generalize left : text.length - start = size
  induction size using Nat.strongRecOn generalizing start with
  | ind size ih =>
      by_cases ended : start = text.length
      · subst ended
        exact .inl ⟨[], .done _⟩
      · have before : start < text.length := by omega
        rcases fails_or_isLink definitions before with
          ⟨fault, failed⟩ | ⟨link, starts, valid⟩
        · exact .inr ⟨[], start, fault, .done start, before, failed⟩
        · have forward := valid.forward
          have within := valid.inside
          rcases ih (text.length - link.stop) (by omega) within rfl with
            ⟨links, chain⟩ | ⟨links, offset, fault, chain, short, failed⟩
          · exact .inl ⟨link :: links, .link starts valid chain⟩
          · exact .inr ⟨link :: links, offset, fault, .link starts valid chain, short, failed⟩

/-- A run from an offset returns exactly the tokens of a chain to the end of the text. -/
theorem scanFrom_eq_ok_iff {start : Nat} (inside : start ≤ text.length) {tokens : List Token} :
    scanFrom definitions text start = .ok tokens ↔
      ∃ links, Chain definitions text start links text.length ∧
        tokens = tokensAlong text links := by
  constructor
  · intro returned
    rcases chain_or_fails definitions inside with
      ⟨links, chain⟩ | ⟨links, offset, fault, chain, short, failed⟩
    · rw [scanFrom_of_chain chain, scanFrom_length] at returned
      exact ⟨links, chain, by simpa [Except.map] using returned.symm⟩
    · rw [scanFrom_of_chain chain, scanFrom_of_fails short failed] at returned
      cases returned
  · rintro ⟨links, chain, rfl⟩
    rw [scanFrom_of_chain chain, scanFrom_length]
    simp [Except.map]

/-- A run from an offset fails exactly as the offset does that a chain leads to. -/
theorem scanFrom_eq_error_iff {start : Nat} (inside : start ≤ text.length) {fault : Fault} :
    scanFrom definitions text start = .error fault ↔
      ∃ links offset, Chain definitions text start links offset ∧
        offset < text.length ∧ Fails definitions text offset fault := by
  constructor
  · intro failing
    rcases chain_or_fails definitions inside with
      ⟨links, chain⟩ | ⟨links, offset, other, chain, short, failed⟩
    · rw [scanFrom_of_chain chain, scanFrom_length] at failing
      cases failing
    · rw [scanFrom_of_chain chain, scanFrom_of_fails short failed] at failing
      cases failing
      exact ⟨links, offset, chain, short, failed⟩
  · rintro ⟨links, offset, chain, short, failed⟩
    rw [scanFrom_of_chain chain, scanFrom_of_fails short failed]
    rfl

theorem tokenize_eq_scanFrom {lexer : Lexer} (registered : lexer.patterns ≠ []) (text : Text) :
    lexer.tokenize (.str text) = scanFrom lexer.patterns text 0 := by
  have some : lexer.patterns.isEmpty = false := by simpa using registered
  have start : Place.ofOffset text 0 = .start text := by simp [Place.ofOffset]
  simp [tokenize, some, scanFrom, start, Tracker.atOffset]

theorem tokenize_eq_ok_iff {lexer : Lexer} (registered : lexer.patterns ≠ [])
    {tokens : List Token} :
    lexer.tokenize (.str text) = .ok tokens ↔
      ∃ links, Chain lexer.patterns text 0 links text.length ∧
        tokens = tokensAlong text links := by
  rw [tokenize_eq_scanFrom registered]
  exact scanFrom_eq_ok_iff (Nat.zero_le _)

/-- A lexer with definitions fails exactly as the offset does that a chain leads to. -/
theorem tokenize_eq_error_iff {lexer : Lexer} (registered : lexer.patterns ≠ [])
    {fault : Fault} :
    lexer.tokenize (.str text) = .error fault ↔
      ∃ links offset, Chain lexer.patterns text 0 links offset ∧ offset < text.length ∧
        Fails lexer.patterns text offset fault := by
  rw [tokenize_eq_scanFrom registered]
  exact scanFrom_eq_error_iff (Nat.zero_le _)

theorem Chain.isLink_of_mem {start stop : Nat} {links : List Link}
    (chain : Chain definitions text start links stop) {link : Link} (inside : link ∈ links) :
    IsLink definitions text link := by
  induction chain with
  | done offset => cases inside
  | link starts first rest ih =>
      rcases List.mem_cons.mp inside with rfl | later
      · exact first
      · exact ih later

theorem Chain.drop_start {start stop : Nat} {links : List Link}
    (chain : Chain definitions text start links stop) :
    text.drop start = (links.map (·.found.consumed)).flatten ++ text.drop stop := by
  induction chain with
  | done offset => rfl
  | link starts first rest ih =>
      rw [← starts, first.drop_start, ih, List.map_cons, List.flatten_cons, List.append_assoc]

theorem isLink_of_mem_tokenize {lexer : Lexer} (registered : lexer.patterns ≠ [])
    {tokens : List Token} (cut : lexer.tokenize (.str text) = .ok tokens) {token : Token}
    (inside : token ∈ tokens) :
    ∃ link, IsLink lexer.patterns text link ∧ link.token? text = some token := by
  rw [tokenize_eq_scanFrom registered, scanFrom_eq_ok_iff (Nat.zero_le _)] at cut
  obtain ⟨links, chain, rfl⟩ := cut
  obtain ⟨link, listed, made⟩ := List.mem_filterMap.mp inside
  exact ⟨link, chain.isLink_of_mem listed, made⟩

/-- A cut fails with a report of unmatched text if it is its own or a caller's. -/
theorem fails_unmatched_iff {offset : Nat} {place : Unmatched} :
    Fails definitions text offset (.unmatched place) ↔
      (Declines text offset definitions ∧ place = unmatchedReport text offset) ∨
        Raises definitions text offset (.unmatched place) := by
  constructor
  · intro failed
    cases failed with
    | unmatched declined => exact .inl ⟨declined, rfl⟩
    | raised raises => exact .inr raises
  · rintro (⟨declined, rfl⟩ | raises)
    · exact .unmatched declined
    · exact .raised raises

/--
A lexer returns exactly the tokens of the one chain that reaches the end of the
text.  It reports unmatched text exactly if a chain reaches an offset where every
definition declines, unless a function of a caller fails with such a report
itself.  Every failure is that of the offset where the one chain gets stuck.
-/
theorem tokenize_iff_chain (lexer : Lexer) (text : Text) (registered : lexer.patterns ≠ []) :
    (∀ tokens, lexer.tokenize (.str text) = .ok tokens ↔
      ∃ links, Chain lexer.patterns text 0 links text.length ∧
        tokens = tokensAlong text links) ∧
    (∀ links others, Chain lexer.patterns text 0 links text.length →
      Chain lexer.patterns text 0 others text.length → links = others) ∧
    (∀ place, lexer.tokenize (.str text) = .error (.unmatched place) ↔
      ∃ links offset, Chain lexer.patterns text 0 links offset ∧ offset < text.length ∧
        ((Declines text offset lexer.patterns ∧ place = unmatchedReport text offset) ∨
          Raises lexer.patterns text offset (.unmatched place))) ∧
    (∀ fault, lexer.tokenize (.str text) = .error fault ↔
      ∃ links offset, Chain lexer.patterns text 0 links offset ∧ offset < text.length ∧
        Fails lexer.patterns text offset fault) := by
  rw [tokenize_eq_scanFrom registered]
  refine ⟨fun tokens => scanFrom_eq_ok_iff (Nat.zero_le _), fun _ _ => Chain.unique, ?_,
    fun fault => scanFrom_eq_error_iff (Nat.zero_le _)⟩
  intro place
  rw [scanFrom_eq_error_iff (Nat.zero_le _)]
  simp only [fails_unmatched_iff]

/-- A lexer that ignores blanks and counts the characters of every other one it takes. -/
def blanksAndSingles : Lexer where
  languageName := ['x']
  patterns :=
    [⟨['b'], .consumer fun rest => .ok (if rest.take 1 = [' '] then .success [' '] else .failure),
        true, none, by decide⟩,
      ⟨['s'], .consumer fun rest => .ok (.success (rest.take 1)), false,
        some fun piece => .ok (.int piece.length), by decide⟩]
  languageName_ne_nil := by decide

theorem tokenize_iff_chain_blanksAndSingles :
    blanksAndSingles.patterns ≠ [] ∧
      ∃ links, Chain blanksAndSingles.patterns ['a', ' ', '\r', 'b'] 0 links 4 ∧
        [⟨.int 1, ['s'], 1, 1⟩, ⟨.int 1, ['s'], 1, 3⟩, ⟨.int 1, ['s'], 2, 1⟩] =
          tokensAlong ['a', ' ', '\r', 'b'] links := by
  have registered : blanksAndSingles.patterns ≠ [] := by simp [blanksAndSingles]
  have returned : blanksAndSingles.tokenize (.str ['a', ' ', '\r', 'b']) =
      .ok [⟨.int 1, ['s'], 1, 1⟩, ⟨.int 1, ['s'], 1, 3⟩, ⟨.int 1, ['s'], 2, 1⟩] := by cbv
  exact ⟨registered, ((tokenize_iff_chain blanksAndSingles _ registered).1 _).mp returned⟩

end Lexer

end Lexwork
