import Lexwork.Proofs.Regex.Lexemes

/-!
# Repetitions beyond counting

A pattern is refused for what is wrong with it, or because it asks for repetitions
that cannot be counted.  Of all that a lexeme can be only bounds in braces ask for
that: every other reader finds something or a fault.
-/

namespace Lexwork

namespace Regex

structure Reading.Moderate {α : Type} (reading : Reading α) : Prop where
  outcome_ne : ∀ excess, reading.outcome ≠ .error (.uncountable excess)

section Readings

variable {α β : Type}

@[grind .] theorem moderate_found (taken : Nat) (a : α) : (Reading.found taken a).Moderate :=
  ⟨fun _ => nofun⟩

@[grind .] theorem moderate_fault (taken : Nat) (cause : Cause) (offset : Nat) :
    (Reading.fault taken cause offset : Reading α).Moderate :=
  ⟨fun _ => nofun⟩

@[grind .] theorem moderate_unsupported (taken : Nat) (construct : Construct) :
    (Reading.unsupported taken construct : Reading α).Moderate :=
  ⟨fun _ => nofun⟩

@[grind .] theorem Reading.Moderate.refused {reading : Reading α} {refusal : Refusal}
    (moderate : reading.Moderate) (refused : reading.outcome = .error refusal) (taken : Nat) :
    (⟨taken, .error refusal⟩ : Reading β).Moderate := by
  refine ⟨fun excess same => moderate.outcome_ne excess ?_⟩
  rw [refused, Except.error.inj same]

@[grind .] theorem Reading.Moderate.map {reading : Reading α} (moderate : reading.Moderate)
    (more : Nat) (f : α → β) : (reading.map more f).Moderate := by
  cases outcome : reading.outcome with
  | ok a => exact ⟨by simp [Reading.map, outcome, Except.map]⟩
  | error refusal =>
      have passed : (reading.map more f) = ⟨reading.taken + more, .error refusal⟩ := by
        rw [Reading.map, outcome]
        rfl
      rw [passed]
      exact moderate.refused outcome _

/-! Every reader but that of braces only finds something or a fault, or asks another one. -/

@[grind .] theorem moderate_readHexEscape (offset : Nat) (c : Char) (size : Nat)
    (rest : List Glyph) : (readHexEscape offset c size rest).Moderate := by
  unfold readHexEscape
  grind

@[grind .] theorem moderate_readCodeEscape (offset : Nat) (c : Char) (rest : List Glyph) :
    (readCodeEscape offset c rest).Moderate := by
  unfold readCodeEscape
  grind

@[grind .] theorem moderate_readOctalEscape (offset : Nat) (c : Char) (rest : List Glyph) :
    (readOctalEscape offset c rest).Moderate := by
  unfold readOctalEscape
  grind

@[grind .] theorem moderate_readDigitEscape (offset : Nat) (c : Char) (rest : List Glyph) :
    (readDigitEscape offset c rest).Moderate := by
  unfold readDigitEscape
  grind

@[grind .] theorem moderate_readEscape (offset : Nat) (c : Char) (rest : List Glyph) :
    (readEscape offset c rest).Moderate := by
  unfold readEscape
  grind

@[grind .] theorem moderate_readSetEscape (offset : Nat) (c : Char) (rest : List Glyph) :
    (readSetEscape offset c rest).Moderate := by
  unfold readSetEscape
  grind

@[grind .] theorem moderate_readMember (offset : Nat) (glyph : Glyph) (rest : List Glyph) :
    (readMember offset glyph rest).Moderate := by
  unfold readMember
  grind

@[grind .] theorem moderate_moveInSet (offset : Nat) (glyph : Glyph) (rest : List Glyph)
    (phase : SetPhase) (items : List SetItem) :
    (moveInSet offset glyph rest phase items).Moderate := by
  cases phase with
  | member =>
      rw [moveInSet]
      grind
  | afterMember first item =>
      rw [moveInSet]
      grind
  | afterDash first item =>
      simp only [moveInSet]
      split
      · exact moderate_found ..
      · split
        · next refused => exact (moderate_readMember ..).refused refused _
        · split
          · exact moderate_found ..
          · exact moderate_fault ..

@[grind .] theorem moderate_readMembers (opened : Nat) (negated : Bool) (skip taken offset : Nat)
    (phase : SetPhase) (items : List SetItem) (glyphs : List Glyph) :
    (readMembers opened negated skip taken offset phase items glyphs).Moderate := by
  induction glyphs generalizing skip taken offset phase items with
  | nil =>
      rw [readMembers]
      exact moderate_fault ..
  | cons glyph rest ih =>
      cases skip with
      | succ skip =>
          rw [readMembers]
          exact ih ..
      | zero =>
          rw [readMembers]
          split
          · next refused => exact (moderate_moveInSet ..).refused refused _
          · exact moderate_found ..
          · exact ih ..

@[grind .] theorem moderate_readSet (opened : Nat) (glyphs : List Glyph) :
    (readSet opened glyphs).Moderate := by
  unfold readSet
  grind

@[grind .] theorem moderate_readQuantifier (taken least : Nat) (most : Option Nat)
    (rest : List Glyph) : (readQuantifier taken least most rest).Moderate := by
  unfold readQuantifier
  grind

@[grind .] theorem moderate_readName (before offset : Nat) (terminator : Char)
    (rest : List Glyph) (build : Text → Lexeme) :
    (readName before offset terminator rest build).Moderate := by
  unfold readName
  grind

@[grind .] theorem moderate_readNamed (offset : Nat) (glyphs : List Glyph) :
    (readNamed offset glyphs).Moderate := by
  unfold readNamed
  grind

@[grind .] theorem moderate_readBehind (offset : Nat) (glyphs : List Glyph) :
    (readBehind offset glyphs).Moderate := by
  unfold readBehind
  grind

@[grind .] theorem moderate_readComment (offset : Nat) (rest : List Glyph) :
    (readComment offset rest).Moderate := by
  unfold readComment
  grind

@[grind .] theorem moderate_readFlags (taken offset : Nat) (flags : Flags) (glyphs : List Glyph) :
    (readFlags taken offset flags glyphs).Moderate := by
  induction glyphs generalizing taken offset flags with
  | nil =>
      rw [readFlags]
      exact moderate_fault ..
  | cons glyph rest ih =>
      rw [readFlags]
      grind

@[grind .] theorem moderate_readExtension (offset : Nat) (glyphs : List Glyph) :
    (readExtension offset glyphs).Moderate := by
  unfold readExtension
  grind

@[grind .] theorem moderate_readOpening (offset : Nat) (rest : List Glyph) :
    (readOpening offset rest).Moderate := by
  unfold readOpening
  grind

end Readings

/-! ## Bounds in braces -/

namespace Glyph

theorem isPlain_iff {glyph : Glyph} {c : Char} : glyph.isPlain c = true ↔ glyph = plain c := by
  obtain ⟨escaped, d⟩ := glyph
  simp [isPlain, plain]

theorem startsWith_iff {c : Char} {glyphs : List Glyph} :
    startsWith c glyphs = true ↔ ∃ later, glyphs = plain c :: later := by
  cases glyphs with
  | nil => simp [startsWith]
  | cons glyph rest => simp [startsWith, isPlain_iff]

variable (test : Char → Bool) (n : Nat)

theorem leading_append_drop (glyphs : List Glyph) :
    (leading test n glyphs).map plain ++ glyphs.drop (leading test n glyphs).length = glyphs := by
  induction glyphs generalizing n with
  | nil => cases n <;> rfl
  | cons glyph rest ih =>
      cases n with
      | zero => rfl
      | succ n =>
          obtain ⟨escaped, c⟩ := glyph
          rw [leading]
          split
          · next passes =>
            obtain ⟨rfl, -⟩ : escaped = false ∧ _ := by simpa using passes
            exact congrArg (plain c :: ·) (ih n)
          · rfl

variable {test n}

theorem test_of_mem_leading {c : Char} {glyphs : List Glyph} (inside : c ∈ leading test n glyphs) :
    test c = true := by
  induction glyphs generalizing n with
  | nil => cases n <;> cases inside
  | cons glyph rest ih =>
      cases n with
      | zero => cases inside
      | succ n =>
          rw [leading] at inside
          split at inside
          · next passes =>
            rcases List.mem_cons.mp inside with rfl | inside
            · exact (Bool.and_eq_true_iff.mp passes).2
            · exact ih inside
          · cases inside

/-- The leading characters stop at one that does not pass the test. -/
theorem leading_append {word : Text} {c : Char} (passing : ∀ c ∈ word, test c = true)
    (failing : test c = false) (room : word.length ≤ n) (later : List Glyph) :
    leading test n (word.map plain ++ plain c :: later) = word := by
  induction word generalizing n with
  | nil => cases n <;> simp [leading, plain, failing]
  | cons d word ih =>
      cases n with
      | zero => cases room
      | succ n =>
          rw [List.forall_mem_cons] at passing
          have more := ih passing.2 (Nat.le_of_succ_le_succ room)
          simpa [leading, plain, passing.1] using more

end Glyph

section Braces

open Glyph (plain)

def IsDigits (text : Text) : Prop :=
  ∀ c ∈ text, c.isDigit = true

variable {count low high : Text}

theorem isDigits_leading (n : Nat) (glyphs : List Glyph) :
    IsDigits (Glyph.leading Char.isDigit n glyphs) :=
  fun _ => Glyph.test_of_mem_leading

theorem drop_digits (digits : Text) (later : List Glyph) :
    (digits.map plain ++ later).drop digits.length = later := by
  rw [← List.length_map plain, List.drop_left]

theorem judgeBounds_outcome_iff {excess : Excess} {offset taken : Nat} {later : List Glyph} :
    (judgeBounds offset taken low high later).outcome = .error (.uncountable excess) ↔
      (excess? low).or (excess? high) = some excess := by
  rw [judgeBounds]
  split
  · next found => simp [found]
  · next countable =>
    rw [countable]
    refine ⟨fun refused => ?_, nofun⟩
    split at refused
    · exact absurd refused ((moderate_fault ..).outcome_ne excess)
    · exact absurd refused ((moderate_readQuantifier ..).outcome_ne excess)

theorem judgeBounds_uncountable {excess : Excess}
    (found : (excess? low).or (excess? high) = some excess) (offset taken : Nat)
    (later : List Glyph) :
    judgeBounds offset taken low high later = ⟨taken, .error (.uncountable excess)⟩ := by
  rw [judgeBounds, found]

theorem readBraces_exactly (digits : IsDigits count) (nonempty : count ≠ []) (offset : Nat)
    (later : List Glyph) :
    readBraces offset (count.map plain ++ plain '\x7d' :: later) =
      judgeBounds offset (count.length + 2) count count later := by
  let whole := count.map plain ++ plain '\x7d' :: later
  have lowRead : Glyph.leading Char.isDigit whole.length whole = count :=
    Glyph.leading_append digits rfl (by simp [whole]) later
  have afterLow : whole.drop count.length = plain '\x7d' :: later := drop_digits count _
  have noComma : Glyph.startsWith ',' (plain '\x7d' :: later) = false := rfl
  have closed : Glyph.startsWith '\x7d' (plain '\x7d' :: later) = true := rfl
  have size : 1 + (whole.length - (plain '\x7d' :: later).length) + 1 = count.length + 2 := by
    simp only [whole, List.length_append, List.length_map]
    omega
  have holds : ¬(!true || count.isEmpty && !false) = true := by simpa using nonempty
  change readBraces offset whole = _
  simp only [readBraces, lowRead, afterLow, noComma, Bool.false_eq_true, if_false, closed, size]
  exact if_neg holds

theorem readBraces_between (lowDigits : IsDigits low) (highDigits : IsDigits high) (offset : Nat)
    (later : List Glyph) :
    readBraces offset (low.map plain ++ plain ',' :: (high.map plain ++ plain '\x7d' :: later)) =
      judgeBounds offset (low.length + high.length + 3) low high later := by
  let behind := high.map plain ++ plain '\x7d' :: later
  let whole := low.map plain ++ plain ',' :: behind
  have lowRead : Glyph.leading Char.isDigit whole.length whole = low :=
    Glyph.leading_append lowDigits rfl (by simp [whole]) behind
  have highRead : Glyph.leading Char.isDigit whole.length behind = high :=
    Glyph.leading_append highDigits rfl (by simp [whole, behind]; omega) later
  have afterLow : whole.drop low.length = plain ',' :: behind := drop_digits low _
  have afterHigh : (plain ',' :: behind).drop (1 + high.length) = plain '\x7d' :: later := by
    rw [Nat.add_comm, List.drop_succ_cons]
    exact drop_digits high _
  have comma : Glyph.startsWith ',' (plain ',' :: behind) = true := rfl
  have closed : Glyph.startsWith '\x7d' (plain '\x7d' :: later) = true := rfl
  have size : 1 + (whole.length - (plain '\x7d' :: later).length) + 1 =
      low.length + high.length + 3 := by
    simp only [whole, behind, List.length_append, List.length_map, List.length_cons]
    omega
  change readBraces offset whole = _
  simp only [readBraces, lowRead, afterLow, comma, if_true, List.drop_one, List.tail_cons,
    highRead, afterHigh, closed, size]
  exact if_neg (by simp)

/-- Braces hold a number of repetitions, or a least and a most one, or nothing of the kind. -/
theorem readBraces_cases (rest : List Glyph) :
    (∀ offset, readBraces offset rest = .found 1 (.literal 123)) ∨
    (∃ count later, IsDigits count ∧ count ≠ [] ∧
      rest = count.map plain ++ plain '\x7d' :: later) ∨
    ∃ low high later, IsDigits low ∧ IsDigits high ∧
      rest = low.map plain ++ plain ',' :: (high.map plain ++ plain '\x7d' :: later) := by
  let low := Glyph.leading Char.isDigit rest.length rest
  have lowDigits : IsDigits low := isDigits_leading _ _
  have atLow : low.map plain ++ rest.drop low.length = rest := Glyph.leading_append_drop ..
  cases comma : Glyph.startsWith ',' (rest.drop low.length) with
  | false =>
      by_cases closed : Glyph.startsWith '\x7d' (rest.drop low.length) = true ∧ low ≠ []
      · obtain ⟨later, behind⟩ := Glyph.startsWith_iff.mp closed.1
        exact .inr (.inl ⟨low, later, lowDigits, closed.2, by rw [← behind, atLow]⟩)
      · refine .inl fun offset => ?_
        have declined : (!Glyph.startsWith '\x7d' (rest.drop low.length) ||
            low.isEmpty && !false) = true := by
          simpa [Classical.or_iff_not_imp_left] using closed
        simp only [low] at comma declined
        simp only [readBraces, comma]
        exact if_pos declined
  | true =>
      obtain ⟨behind, atComma⟩ := Glyph.startsWith_iff.mp comma
      let high := Glyph.leading Char.isDigit rest.length behind
      have highDigits : IsDigits high := isDigits_leading _ _
      have atHigh : high.map plain ++ behind.drop high.length = behind :=
        Glyph.leading_append_drop ..
      cases closed : Glyph.startsWith '\x7d' (behind.drop high.length) with
      | true =>
          obtain ⟨later, atBrace⟩ := Glyph.startsWith_iff.mp closed
          refine .inr (.inr ⟨low, high, later, lowDigits, highDigits, ?_⟩)
          rw [← atBrace, atHigh, ← atComma, atLow]
      | false =>
          refine .inl fun offset => ?_
          have afterHigh : (plain ',' :: behind).drop (1 + high.length) =
              behind.drop high.length := by
            rw [Nat.add_comm, List.drop_succ_cons]
          simp only [low, high] at comma atComma closed afterHigh
          rw [atComma] at comma
          simp only [readBraces, atComma, comma, if_true, List.drop_one, List.tail_cons,
            afterHigh, closed]
          rfl

/-- Bounds in braces that ask for repetitions beyond counting, as they are written. -/
inductive ExcessiveBounds : Text → Excess → Prop
  | exactly {count : Text} {excess : Excess} (digits : IsDigits count)
      (found : excess? count = some excess) :
      ExcessiveBounds ('\x7b' :: (count ++ ['\x7d'])) excess
  | between {low high : Text} {excess : Excess} (lowDigits : IsDigits low)
      (highDigits : IsDigits high) (found : (excess? low).or (excess? high) = some excess) :
      ExcessiveBounds ('\x7b' :: (low ++ ',' :: (high ++ ['\x7d']))) excess

theorem ne_nil_of_excess? {excess : Excess} (found : excess? count = some excess) : count ≠ [] := by
  rintro rfl
  exact absurd found (by decide +revert)

/-- Bounds beyond counting are read to their end before they are refused. -/
theorem readBraces_excessive {bounds : Text} {excess : Excess}
    (excessive : ExcessiveBounds ('\x7b' :: bounds) excess) (offset : Nat) (later : List Glyph) :
    readBraces offset (bounds.map plain ++ later) =
      ⟨bounds.length + 1, .error (.uncountable excess)⟩ := by
  cases excessive with
  | @exactly count _ digits found =>
      have read := readBraces_exactly digits (ne_nil_of_excess? found) offset later
      rw [judgeBounds_uncountable (by rw [Option.or_self, found])] at read
      simpa using read
  | @between low high _ lowDigits highDigits found =>
      have read := readBraces_between lowDigits highDigits offset later
      rw [judgeBounds_uncountable found] at read
      simpa [Nat.add_assoc, Nat.add_comm, Nat.add_left_comm] using read

/-- Braces are refused for the number of repetitions only if they hold such bounds. -/
theorem excessive_of_readBraces {excess : Excess} {offset : Nat} {rest : List Glyph}
    (refused : (readBraces offset rest).outcome = .error (.uncountable excess)) :
    ∃ bounds later, ExcessiveBounds ('\x7b' :: bounds) excess ∧
      rest = bounds.map plain ++ later := by
  rcases readBraces_cases rest with literal | ⟨count, later, digits, nonempty, rfl⟩ |
    ⟨low, high, later, lowDigits, highDigits, rfl⟩
  · rw [literal] at refused
    cases refused
  · rw [readBraces_exactly digits nonempty, judgeBounds_outcome_iff, Option.or_self] at refused
    exact ⟨_, later, .exactly digits refused, by simp⟩
  · rw [readBraces_between lowDigits highDigits, judgeBounds_outcome_iff] at refused
    exact ⟨_, later, .between lowDigits highDigits refused, by simp⟩

end Braces

section Lexemes

variable {bounds : Text} {excess : Excess} {glyph : Glyph} {rest later : List Glyph}

theorem ExcessiveBounds.eq_cons (excessive : ExcessiveBounds bounds excess) :
    ∃ behind, bounds = '\x7b' :: behind := by
  cases excessive <;> exact ⟨_, rfl⟩

/-- Bounds hold no backslash, so each of their characters is a unit. -/
theorem ExcessiveBounds.ordinary (excessive : ExcessiveBounds bounds excess) : '\\' ∉ bounds := by
  have digits {text : Text} (all : IsDigits text) : '\\' ∉ text := fun inside =>
    absurd (all _ inside) (by decide)
  cases excessive with
  | exactly all => simp [digits all]
  | between lowDigits highDigits => simp [digits lowDigits, digits highDigits]

theorem readLexeme_brace (verbose : Bool) (offset : Nat) (rest : List Glyph) :
    readLexeme verbose offset (Glyph.plain '\x7b') rest = readBraces offset rest := by
  cases verbose <;> rfl

theorem moderate_readPlain {c : Char} (other : c ≠ '\x7b') (verbose : Bool) (offset : Nat)
    (rest : List Glyph) : (readPlain verbose offset c rest).Moderate := by
  unfold readPlain
  grind

theorem moderate_readLexeme (other : glyph ≠ Glyph.plain '\x7b') (verbose : Bool) (offset : Nat)
    (rest : List Glyph) : (readLexeme verbose offset glyph rest).Moderate := by
  obtain ⟨escaped, c⟩ := glyph
  cases escaped with
  | true => exact moderate_readEscape offset c rest
  | false => exact moderate_readPlain (fun same => other (congrArg Glyph.plain same)) ..

theorem readLexeme_excessive (excessive : ExcessiveBounds bounds excess)
    (read : glyph :: rest = bounds.map Glyph.plain ++ later) (verbose : Bool) (offset : Nat) :
    readLexeme verbose offset glyph rest = ⟨bounds.length, .error (.uncountable excess)⟩ := by
  obtain ⟨behind, rfl⟩ := excessive.eq_cons
  obtain ⟨rfl, rfl⟩ := List.cons.inj read
  exact (readLexeme_brace ..).trans (readBraces_excessive excessive offset later)

/-- Only bounds in braces are refused for the number of repetitions. -/
theorem excessive_of_readLexeme {verbose : Bool} {offset : Nat}
    (refused : (readLexeme verbose offset glyph rest).outcome = .error (.uncountable excess)) :
    ∃ bounds later, ExcessiveBounds bounds excess ∧
      glyph :: rest = bounds.map Glyph.plain ++ later := by
  by_cases brace : glyph = Glyph.plain '\x7b'
  · subst brace
    rw [readLexeme_brace] at refused
    obtain ⟨bounds, later, excessive, rfl⟩ := excessive_of_readBraces refused
    exact ⟨_, later, excessive, rfl⟩
  · exact absurd refused ((moderate_readLexeme brace ..).outcome_ne excess)

end Lexemes

end Regex

end Lexwork
