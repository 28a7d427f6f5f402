import Lexwork.Number.Integer

/-!
# Integers in decimal

The decimal text of an integer is an optional sign and digits, and it is read
back as the same integer unless it has too many digits.
-/

namespace Lexwork

namespace Text

theorem isDigit_iff (c : Char) : c.isDigit = true ↔ 48 ≤ c.toNat ∧ c.toNat ≤ 57 := by
  simp [Char.isDigit, UInt32.le_iff_toNat_le]

theorem isDigit_of_mem_ofNat {n : Nat} {c : Char} (inside : c ∈ ofNat n) : c.isDigit = true :=
  Nat.isDigit_of_mem_toDigits (by decide) (by decide) inside

theorem ofNat_ne_nil (n : Nat) : ofNat n ≠ [] :=
  Nat.toDigits_ne_nil

theorem isDigit_of_head_ofNat {n : Nat} {behind : Text} {c : Char}
    (first : c ∈ (ofNat n ++ behind).head?) : c.isDigit = true := by
  obtain ⟨d, rest, shape⟩ := List.exists_cons_of_ne_nil (ofNat_ne_nil n)
  rw [shape] at first
  cases first
  exact isDigit_of_mem_ofNat (shape ▸ List.mem_cons_self ..)

theorem isBlank_of_isDigit {c : Char} (digit : c.isDigit = true) : isBlank c = false := by
  obtain ⟨low, high⟩ := (isDigit_iff c).mp digit
  simp only [isBlank, inRanges, blankRanges, List.any_cons, List.any_nil, Bool.or_false,
    Bool.or_eq_false_iff, Bool.and_eq_false_iff, decide_eq_false_iff_not]
  omega

theorem ofInt_eq (n : Int) :
    ofInt n = (if n < 0 then ['-'] else []) ++ ofNat n.natAbs := by
  cases n with
  | ofNat n => simp [ofInt]
  | negSucc n => simp [ofInt, Int.negSucc_lt_zero]

theorem ofInt_ne_nil (n : Int) : ofInt n ≠ [] := by
  rw [ofInt_eq]
  exact List.append_ne_nil_of_right_ne_nil _ (ofNat_ne_nil _)

theorem toNat_of_head_ofInt {n : Int} {behind : Text} {c : Char}
    (first : c ∈ (ofInt n ++ behind).head?) : c.toNat = 45 ∨ 48 ≤ c.toNat ∧ c.toNat ≤ 57 := by
  cases n with
  | ofNat n => exact .inr ((isDigit_iff c).mp (isDigit_of_head_ofNat first))
  | negSucc n =>
      cases first
      exact .inl rfl

theorem trimmed_eq_self {text : Text} (solid : ∀ c ∈ text, isBlank c = false) :
    text.trimmed = text := by
  have keeps : ∀ piece : Text, (∀ c ∈ piece, isBlank c = false) →
      piece.dropWhile isBlank = piece := by
    intro piece solid
    cases piece with
    | nil => rfl
    | cons c rest =>
        exact List.dropWhile_cons_of_neg (Bool.eq_false_iff.mp (solid c (List.mem_cons_self ..)))
  rw [trimmed, keeps text solid, keeps, List.reverse_reverse]
  exact fun c inside => solid c (List.mem_reverse.mp inside)

/-- Digits alone form a literal as soon as there is one. -/
theorem digitsApart_digits (afterDigit : Bool) {digits : Text}
    (all : ∀ c ∈ digits, c.isDigit = true) :
    digitsApart afterDigit digits = (afterDigit || !digits.isEmpty) := by
  induction digits generalizing afterDigit with
  | nil => exact (Bool.or_false afterDigit).symm
  | cons c rest ih =>
      have digit := all c (List.mem_cons_self ..)
      have plain : c ≠ '_' := by
        rintro rfl
        cases digit
      rw [digitsApart, if_neg plain, ih true fun d inside => all d (List.mem_cons_of_mem c inside)]
      exact (Bool.or_true afterDigit).symm

/-- A sign and a limited number of digits are read as the integer they denote. -/
theorem readInteger_digits (negative : Bool) {digits : Text} (some : digits ≠ [])
    (all : ∀ c ∈ digits, c.isDigit = true) (short : digits.length ≤ integerDigitLimit) :
    readInteger ((if negative then ['-'] else []) ++ digits) =
      .ok (signed negative (digitsValue digits)) := by
  obtain ⟨first, rest, rfl⟩ := List.exists_cons_of_ne_nil some
  have digit : first.isDigit = true := all first (List.mem_cons_self ..)
  have solid : ∀ c ∈ (if negative then ['-'] else []) ++ first :: rest, isBlank c = false := by
    intro c inside
    rcases List.mem_append.mp inside with sign | inDigits
    · cases negative with
      | false => cases sign
      | true =>
          cases List.mem_singleton.mp sign
          decide
    · exact isBlank_of_isDigit (all c inDigits)
  have split : splitSign ((if negative then ['-'] else []) ++ first :: rest) =
      (negative, first :: rest) := by
    cases negative with
    | true => rfl
    | false =>
        have notMinus : first ≠ '-' := by
          rintro rfl
          cases digit
        have notPlus : first ≠ '+' := by
          rintro rfl
          cases digit
        simp [splitSign, notMinus, notPlus]
  have run : (first :: rest).takeWhile (fun c => c.isDigit || c == '_') = first :: rest := by
    have taken : (first :: rest ++ []).takeWhile (fun c => c.isDigit || c == '_') =
        first :: rest ++ [] :=
      List.takeWhile_append_of_pos fun c inside => Bool.or_eq_true_iff.mpr (.inl (all c inside))
    rwa [List.append_nil] at taken
  have kept : (first :: rest).filter Char.isDigit = first :: rest :=
    List.filter_eq_self.mpr all
  have apart : digitsApart false (first :: rest) = true := digitsApart_digits false all
  have fits : ¬ integerDigitLimit < (first :: rest).length := Nat.not_lt.mpr short
  have ended : ¬ (first :: rest).length < (first :: rest).length := Nat.lt_irrefl _
  rw [readInteger, trimmed_eq_self solid, split]
  dsimp only
  rw [run, kept, apart, Bool.not_true, if_neg Bool.false_ne_true, if_neg fits, if_neg ended]

theorem readInteger_ofInt (n : Int) (short : (ofNat n.natAbs).length ≤ integerDigitLimit) :
    readInteger (ofInt n) = .ok n := by
  have read := readInteger_digits (decide (n < 0)) (ofNat_ne_nil n.natAbs)
    (fun _ => isDigit_of_mem_ofNat) short
  have denoted : digitsValue (ofNat n.natAbs) = n.natAbs := Nat.ofDigitChars_ten_toDigits
  have value : signed (decide (n < 0)) n.natAbs = n := by
    unfold signed
    split
    · rename_i negative
      have below := of_decide_eq_true negative
      omega
    · rename_i negative
      have above := of_decide_eq_false (Bool.eq_false_iff.mpr negative)
      omega
  rw [denoted, value] at read
  rw [ofInt_eq]
  simpa using read

end Text

end Lexwork
