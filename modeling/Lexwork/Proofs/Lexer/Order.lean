import Lexwork.Proofs.Lexer.Chain
import Lexwork.Proofs.Position.Lines
import Mathlib.Data.Prod.Lex

/-!
# The order of tokens

Every character moves a tracker on to a later position, with one exception: a line
feed that completes a line break leaves it at the start of the line that the carriage
return has opened.  So the tokens of a text stand in the order of their positions, and
no two of them share one unless nothing but such a line feed stands between their
starts.
-/

namespace Lexwork

namespace Tracker

/-- The position of a tracker, compared by lines first. -/
def coordinates (tracker : Tracker) : Nat ×ₗ Nat :=
  toLex (tracker.line, tracker.character)

theorem coordinates_lt_iff {tracker other : Tracker} :
    tracker.coordinates < other.coordinates ↔
      tracker.line < other.line ∨
        tracker.line = other.line ∧ tracker.character < other.character :=
  Prod.Lex.toLex_lt_toLex

/-- A carriage return that was just passed has opened a line. -/
def IsSettled (tracker : Tracker) : Prop :=
  tracker.afterReturn = true → tracker.character = 1

variable {tracker : Tracker}

theorem isSettled_start : IsSettled {} :=
  fun _ => rfl

theorem isSettled_step (tracker : Tracker) (stroke : Stroke) : (tracker.step stroke).IsSettled := by
  cases stroke with
  | carriageReturn => exact fun _ => rfl
  | lineFeed => exact fun _ => rfl
  | other => exact fun returned => nomatch returned

/-- A line feed that completes a line break leaves the position as it is. -/
theorem IsSettled.coordinates_step (settled : tracker.IsSettled)
    (returned : tracker.afterReturn = true) :
    (tracker.step .lineFeed).coordinates = tracker.coordinates := by
  rw [coordinates, coordinates, step, settled returned, returned]
  rfl

theorem coordinates_lt_step {stroke : Stroke}
    (moves : ¬ (tracker.afterReturn = true ∧ stroke = .lineFeed)) :
    tracker.coordinates < (tracker.step stroke).coordinates := by
  rw [coordinates_lt_iff]
  cases stroke with
  | carriageReturn => exact .inl (Nat.lt_succ_self _)
  | lineFeed =>
      have fresh : tracker.afterReturn = false := by simpa using moves
      refine .inl ?_
      simp only [step, fresh, Bool.false_eq_true, if_false]
      exact Nat.lt_succ_self _
  | other => exact .inr ⟨rfl, Nat.lt_succ_self _⟩

theorem IsSettled.coordinates_le_step (settled : tracker.IsSettled) (stroke : Stroke) :
    tracker.coordinates ≤ (tracker.step stroke).coordinates := by
  by_cases completes : tracker.afterReturn = true ∧ stroke = .lineFeed
  · rw [completes.2, settled.coordinates_step completes.1]
  · exact (coordinates_lt_step completes).le

theorem IsSettled.consume (settled : tracker.IsSettled) (piece : Text) :
    (tracker.consume piece).IsSettled := by
  induction piece generalizing tracker with
  | nil => exact settled
  | cons c piece ih => exact ih (isSettled_step tracker (Stroke.ofChar c))

theorem IsSettled.coordinates_le_consume (settled : tracker.IsSettled) (piece : Text) :
    tracker.coordinates ≤ (tracker.consume piece).coordinates := by
  induction piece generalizing tracker with
  | nil => exact le_refl _
  | cons c piece ih =>
      exact (settled.coordinates_le_step _).trans (ih (isSettled_step tracker (Stroke.ofChar c)))

theorem ofChar_eq_lineFeed_iff {c : Char} : Stroke.ofChar c = .lineFeed ↔ c = '\n' := by
  unfold Stroke.ofChar
  split
  · rename_i isReturn
    simp [isReturn]
  · split
    · rename_i isFeed
      simp [isFeed]
    · rename_i notFeed
      simp [notFeed]

/--
A piece moves the position on, unless it is just the line feed of a line break that
was begun before.
-/
theorem IsSettled.coordinates_lt_consume (settled : tracker.IsSettled) {piece : Text}
    (nonempty : piece ≠ []) (moves : ¬ (tracker.afterReturn = true ∧ piece = ['\n'])) :
    tracker.coordinates < (tracker.consume piece).coordinates := by
  obtain ⟨c, rest, rfl⟩ := List.exists_cons_of_ne_nil nonempty
  rw [consume_cons]
  have behind := isSettled_step tracker (Stroke.ofChar c)
  by_cases completes : tracker.afterReturn = true ∧ Stroke.ofChar c = .lineFeed
  · -- The line feed itself does not move, but it is not all, and the next character does.
    obtain ⟨returned, feed⟩ := completes
    obtain rfl := ofChar_eq_lineFeed_iff.mp feed
    cases rest with
    | nil => exact absurd ⟨returned, rfl⟩ moves
    | cons d rest =>
        have fresh : (tracker.step (Stroke.ofChar '\n')).afterReturn = false := by
          rw [feed]
          rfl
        have next : ¬ ((tracker.step (Stroke.ofChar '\n')).afterReturn = true ∧
            Stroke.ofChar d = .lineFeed) := by simp [fresh]
        calc
          tracker.coordinates = (tracker.step (Stroke.ofChar '\n')).coordinates := by
            rw [feed, settled.coordinates_step returned]
          _ < ((tracker.step (Stroke.ofChar '\n')).step (Stroke.ofChar d)).coordinates :=
            coordinates_lt_step next
          _ ≤ _ := (isSettled_step _ _).coordinates_le_consume rest
  · exact (coordinates_lt_step completes).trans_le (behind.coordinates_le_consume rest)

end Tracker

/--
All that stands between two offsets is the line feed of a line break that begins
right before the first.
-/
def Text.CompletesBreak (text : Text) (start stop : Nat) : Prop :=
  text.slice start stop = ['\n'] ∧ 0 < start ∧ text[start - 1]? = some '\r'

namespace Tracker

variable {text : Text} {start stop : Nat}

theorem isSettled_atOffset (text : Text) (offset : Nat) : (atOffset text offset).IsSettled :=
  isSettled_start.consume (text.take offset)

/-- A carriage return was just passed exactly if it stands right before the offset. -/
theorem afterReturn_atOffset_iff (inside : start ≤ text.length) :
    (atOffset text start).afterReturn = true ↔ 0 < start ∧ text[start - 1]? = some '\r' := by
  rw [atOffset, (standsBehind_consume (text.take start)).afterReturn, List.getLast?_take]
  cases start with
  | zero => simp
  | succ before =>
      have here : before < text.length := inside
      simp [here]

theorem completesBreak_iff (inside : start ≤ text.length) :
    text.CompletesBreak start stop ↔
      (atOffset text start).afterReturn = true ∧ text.slice start stop = ['\n'] := by
  rw [afterReturn_atOffset_iff inside]
  exact and_comm

theorem coordinates_atOffset_eq (inside : start ≤ text.length) (ordered : start ≤ stop)
    (completes : text.CompletesBreak start stop) :
    (atOffset text start).coordinates = (atOffset text stop).coordinates := by
  obtain ⟨returned, between⟩ := (completesBreak_iff inside).mp completes
  rw [← atOffset_consume_slice ordered, between]
  exact ((isSettled_atOffset text start).coordinates_step returned).symm

theorem coordinates_atOffset_lt (ordered : start < stop) (inside : stop ≤ text.length)
    (moves : ¬ text.CompletesBreak start stop) :
    (atOffset text start).coordinates < (atOffset text stop).coordinates := by
  have within : start ≤ text.length := Nat.le_of_lt (Nat.lt_of_lt_of_le ordered inside)
  have nonempty : text.slice start stop ≠ [] := by
    intro empty
    have length : (text.slice start stop).length = stop - start := Text.length_slice inside
    rw [empty, List.length_nil] at length
    omega
  rw [← atOffset_consume_slice (Nat.le_of_lt ordered)]
  exact (isSettled_atOffset text start).coordinates_lt_consume nonempty
    fun completes => moves ((completesBreak_iff within).mpr completes)

end Tracker

def Token.coordinates (token : Token) : Nat ×ₗ Nat :=
  toLex (token.line, token.character)

namespace Lexer

variable {definitions : List Definition} {text : Text}

theorem Link.coordinates_token {link : Link} {token : Token}
    (made : link.token? text = some token) :
    token.coordinates = (Tracker.atOffset text link.start).coordinates := by
  unfold Link.token? at made
  split at made
  · cases made
  · cases made
    rfl

theorem Chain.starts {start stop : Nat} {links : List Link}
    (chain : Chain definitions text start links stop) :
    (∀ link ∈ links, start ≤ link.start) ∧ links.Pairwise (·.start < ·.start) := by
  induction chain with
  | done offset => exact ⟨nofun, .nil⟩
  | @link start stop link links starts first rest ih =>
      obtain ⟨behind, ordered⟩ := ih
      have forward := first.forward
      refine ⟨?_, List.pairwise_cons.mpr ⟨?_, ordered⟩⟩
      · intro other listed
        rcases List.mem_cons.mp listed with rfl | later
        · exact Nat.le_of_eq starts.symm
        · have apart := behind other later
          omega
      · intro other later
        exact Nat.lt_of_lt_of_le forward (behind other later)

/-- Two links of a text make tokens at one position exactly if they part a line break so. -/
theorem coordinates_of_links {first second : Link} (inside : second.start ≤ text.length)
    (ordered : first.start < second.start) {token later : Token}
    (made : first.token? text = some token) (madeLater : second.token? text = some later) :
    (token.coordinates = later.coordinates ↔ text.CompletesBreak first.start second.start) ∧
      (¬ text.CompletesBreak first.start second.start → token.coordinates < later.coordinates) := by
  rw [Link.coordinates_token made, Link.coordinates_token madeLater]
  have forward := Tracker.coordinates_atOffset_lt ordered inside
  have within : first.start ≤ text.length := Nat.le_of_lt (Nat.lt_of_lt_of_le ordered inside)
  refine ⟨⟨?_, Tracker.coordinates_atOffset_eq within (Nat.le_of_lt ordered)⟩, forward⟩
  intro same
  by_contra moves
  exact absurd same (ne_of_lt (forward moves))

/--
The tokens of a text stand in the order of their positions.  Of two tokens that start
at different offsets the later one has the later position, except that they share one
exactly if all that stands between their starts is the line feed of a line break that
begins right before the first.
-/
theorem tokenize_in_order (lexer : Lexer) (text : Text) (tokens : List Token)
    (cut : lexer.tokenize (.str text) = .ok tokens) :
    tokens.Pairwise (·.coordinates ≤ ·.coordinates) ∧
      ∃ links, Chain lexer.patterns text 0 links text.length ∧ tokens = tokensAlong text links ∧
        ∀ first ∈ links, ∀ second ∈ links, first.start < second.start →
          ∀ token later, first.token? text = some token → second.token? text = some later →
            (token.coordinates = later.coordinates ↔
              text.CompletesBreak first.start second.start) ∧
            (¬ text.CompletesBreak first.start second.start →
              token.coordinates < later.coordinates) := by
  by_cases registered : lexer.patterns = []
  · simp [tokenize, registered] at cut
  obtain ⟨links, chain, rfl⟩ := (tokenize_eq_ok_iff registered).mp cut
  have inside : ∀ link ∈ links, link.start ≤ text.length :=
    fun link listed => (chain.isLink_of_mem listed).within
  refine ⟨?_, links, chain, rfl, ?_⟩
  · rw [tokensAlong, List.pairwise_filterMap]
    refine chain.starts.2.imp_of_mem ?_
    intro first second _ listed ordered token made later madeLater
    obtain ⟨same, forward⟩ := coordinates_of_links (inside second listed) ordered made madeLater
    by_cases completes : text.CompletesBreak first.start second.start
    · exact (same.mpr completes).le
    · exact (forward completes).le
  · intro first _ second listed ordered token later made madeLater
    exact coordinates_of_links (inside second listed) ordered made madeLater

/-- The line feed of a text whose only line break is cut in two shares its position. -/
theorem tokenize_in_order_blanksAndSingles :
    let text : Text := ['a', '\r', '\n', 'b']
    let tokens : List Token :=
      [⟨.int 1, ['s'], 1, 1⟩, ⟨.int 1, ['s'], 1, 2⟩, ⟨.int 1, ['s'], 2, 1⟩, ⟨.int 1, ['s'], 2, 1⟩]
    blanksAndSingles.tokenize (.str text) = .ok tokens ∧
      tokens.Pairwise (·.coordinates ≤ ·.coordinates) ∧ text.CompletesBreak 2 3 := by
  intro text tokens
  have returned : blanksAndSingles.tokenize (.str text) = .ok tokens := by cbv
  exact ⟨returned, (tokenize_in_order blanksAndSingles _ _ returned).1, rfl, by decide, rfl⟩

end Lexer

end Lexwork
