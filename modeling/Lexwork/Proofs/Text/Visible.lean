import Lexwork.Regex.Lexeme
import Lexwork.Text.Visible

/-!
# Reading previews back

A preview holds no control character: a character is shown as itself if it is none, and
otherwise by an escape written in letters and digits.  A text without a backslash can be
read back from its preview.  A backslash of such a preview begins an escape, the letter
behind it tells how long the escape is, and two digits are enough for every control
character.  So two such texts have the same preview only if they are the same.
-/

namespace Lexwork

namespace Text

/-- The hexadecimal digits of a number are one digit, or those of a number and one more. -/
theorem toDigits_induction {motive : Nat → Text → Prop}
    (one : ∀ d < 16, motive d [Nat.digitChar d])
    (more : ∀ n digits, ∀ d < 16, motive n digits →
      motive (n * 16 + d) (digits ++ [Nat.digitChar d])) (n : Nat) :
    motive n (Nat.toDigits 16 n) := by
  induction n using Nat.strongRecOn with
  | ind n ih =>
      by_cases small : n < 16
      · rw [Nat.toDigits_of_lt_base small]
        exact one n small
      · have split : n / 16 * 16 + n % 16 = n := Nat.div_add_mod' n 16
        have shorter : n / 16 < n := by omega
        rw [Nat.toDigits_of_base_le (by decide) (Nat.le_of_not_lt small)]
        have longer := more _ _ (n % 16) (Nat.mod_lt n (by decide)) (ih (n / 16) shorter)
        rwa [split] at longer

theorem exists_digit_of_mem_toDigits {n : Nat} {c : Char} :
    c ∈ Nat.toDigits 16 n → ∃ d < 16, c = Nat.digitChar d := by
  apply toDigits_induction (motive := fun _ digits => c ∈ digits → ∃ d < 16, c = Nat.digitChar d)
  · intro d small inside
    exact ⟨d, small, List.mem_singleton.mp inside⟩
  · intro n digits d small ih inside
    rcases List.mem_append.mp inside with leading | last
    · exact ih leading
    · exact ⟨d, small, List.mem_singleton.mp last⟩

theorem exists_digit_of_mem_ofHex {width n : Nat} {c : Char} (inside : c ∈ ofHex width n) :
    ∃ d < 16, c = Nat.digitChar d := by
  rcases List.mem_append.mp inside with padding | digit
  · exact ⟨0, by decide, List.eq_of_mem_replicate padding⟩
  · exact exists_digit_of_mem_toDigits digit

theorem length_ofHex {width n : Nat} (positive : 0 < width) (fits : n < Nat.pow 16 width) :
    (ofHex width n).length = width := by
  have short := (Nat.length_toDigits_le_iff (by decide) positive).mpr fits
  rw [ofHex, List.length_append, List.length_replicate]
  omega

theorem hexDigitValue_digitChar : ∀ d < 16, Regex.hexDigitValue (Nat.digitChar d) = d := by
  decide

theorem valueInBase_toDigits (n : Nat) : Regex.valueInBase 16 (Nat.toDigits 16 n) = n := by
  apply toDigits_induction (motive := fun n digits => Regex.valueInBase 16 digits = n)
  · intro d small
    exact (Nat.zero_add _).trans (hexDigitValue_digitChar d small)
  · intro n digits d small ih
    rw [Regex.valueInBase] at ih ⊢
    rw [List.foldl_append, ih]
    exact congrArg (n * 16 + ·) (hexDigitValue_digitChar d small)

/-- A number is read back from its digits, zeros in front of them or not. -/
theorem valueInBase_ofHex (width n : Nat) : Regex.valueInBase 16 (ofHex width n) = n := by
  have zeros : ∀ count digits, Regex.valueInBase 16 (List.replicate count '0' ++ digits) =
      Regex.valueInBase 16 digits := by
    intro count digits
    induction count with
    | zero => rfl
    | succ count ih => exact ih
  exact (zeros _ _).trans (valueInBase_toDigits n)

theorem isControl_digitChar : ∀ d < 16, isControl (Nat.digitChar d) = false := by
  decide

/-- A character is shown without control characters. -/
theorem isControl_of_mem_visibleChar {c shown : Char} (inside : shown ∈ visibleChar c) :
    isControl shown = false := by
  have escaped {letter : Char} {digits : Text} (plain : isControl letter = false)
      (rest : ∀ d ∈ digits, isControl d = false) :
      ∀ d ∈ '\\' :: letter :: digits, isControl d = false :=
    List.forall_mem_cons.mpr ⟨rfl, List.forall_mem_cons.mpr ⟨plain, rest⟩⟩
  unfold visibleChar at inside
  split at inside
  · exact escaped rfl (List.forall_mem_nil _) shown inside
  split at inside
  · exact escaped rfl (List.forall_mem_nil _) shown inside
  split at inside
  · exact escaped rfl (List.forall_mem_nil _) shown inside
  split at inside
  · refine escaped rfl (fun d digit => ?_) shown inside
    obtain ⟨value, small, rfl⟩ := exists_digit_of_mem_ofHex digit
    exact isControl_digitChar value small
  · rename_i solid
    rw [List.mem_singleton.mp inside]
    exact Bool.eq_false_iff.mpr solid

/-- The text that a preview shows, if that has no backslash of its own. -/
def readVisible : Text → Text
  | [] => []
  | '\\' :: 'r' :: rest => '\r' :: readVisible rest
  | '\\' :: 'n' :: rest => '\n' :: readVisible rest
  | '\\' :: 't' :: rest => '\t' :: readVisible rest
  | '\\' :: 'x' :: high :: low :: rest =>
      Char.ofNat (Regex.valueInBase 16 [high, low]) :: readVisible rest
  | c :: rest => c :: readVisible rest

theorem readVisible_escape {digits : Text} (two : digits.length = 2) (rest : Text) :
    readVisible ('\\' :: 'x' :: (digits ++ rest)) =
      Char.ofNat (Regex.valueInBase 16 digits) :: readVisible rest := by
  match digits, two with
  | [high, low], _ => rfl

theorem readVisible_plain {c : Char} (solid : c ≠ '\\') (rest : Text) :
    readVisible (c :: rest) = c :: readVisible rest := by
  rw [readVisible] <;> simp [solid]

/-- Whatever is shown behind it, a character other than the backslash is read back. -/
theorem readVisible_visibleChar {c : Char} (solid : c ≠ '\\') (rest : Text) :
    readVisible (visibleChar c ++ rest) = c :: readVisible rest := by
  unfold visibleChar
  split
  · rename_i same
    rw [same]
    rfl
  split
  · rename_i same
    rw [same]
    rfl
  split
  · rename_i same
    rw [same]
    rfl
  split
  · rename_i control
    have small : c.toNat < 256 := by
      simp only [isControl, Bool.or_eq_true, Bool.and_eq_true, decide_eq_true_eq] at control
      omega
    have two : (ofHex 2 c.toNat).length = 2 := length_ofHex (by decide) small
    rw [List.cons_append, List.cons_append, readVisible_escape two, valueInBase_ofHex,
      Char.ofNat_toNat]
  · exact readVisible_plain solid rest

theorem readVisible_visible {text : Text} (solid : '\\' ∉ text) :
    readVisible text.visible = text := by
  induction text with
  | nil => rfl
  | cons c text ih =>
      obtain ⟨first, later⟩ := not_or.mp (mt List.mem_cons.mpr solid)
      rw [visible, List.flatMap_cons, readVisible_visibleChar (Ne.symm first)]
      exact congrArg (c :: ·) (ih later)

/--
A preview holds no control character, and tells texts without a backslash apart: two
of them have the same preview only if they are the same.
-/
theorem visible_tells_apart :
    (∀ text : Text, ∀ c ∈ text.visible,
      0x20 ≤ c.toNat ∧ ¬ (0x7F ≤ c.toNat ∧ c.toNat ≤ 0x9F)) ∧
    ∀ first second : Text, '\\' ∉ first → '\\' ∉ second →
      (first.visible = second.visible ↔ first = second) := by
  constructor
  · intro text c inside
    obtain ⟨source, _, shown⟩ := List.mem_flatMap.mp inside
    have plain := isControl_of_mem_visibleChar shown
    simp only [isControl, Bool.or_eq_false_iff, Bool.and_eq_false_iff,
      decide_eq_false_iff_not] at plain
    omega
  · intro first second solid solid'
    constructor
    · intro same
      calc
        first = readVisible first.visible := (readVisible_visible solid).symm
        _ = readVisible second.visible := by rw [same]
        _ = second := readVisible_visible solid'
    · exact congrArg visible

/-- A digit behind an escape is not taken for one of its digits. -/
theorem visible_tells_apart_digits :
    let first : Text := ['\x01', '0']
    let second : Text := ['\x10']
    '\\' ∉ first ∧ '\\' ∉ second ∧ first.visible ≠ second.visible := by
  intro first second
  have solid : '\\' ∉ first := by decide
  have solid' : '\\' ∉ second := by decide
  have different : first ≠ second := by decide
  exact ⟨solid, solid', mt (visible_tells_apart.2 first second solid solid').mp different⟩

end Text

end Lexwork
