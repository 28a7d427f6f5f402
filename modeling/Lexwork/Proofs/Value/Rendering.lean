import Lexwork.Proofs.Number.Decimal
import Lexwork.Value.Display

/-!
# Values that have a text

The text of a value shows the integers that are in it, except those that an iterator
has still to yield.  Such an integer may be too long to be written, and then the value
has no text; nothing else keeps a value from having one.
-/

namespace Lexwork

theorem isSome_bind_iff {α β : Type} {first : Option α} {second : α → Option β} {holds : Prop}
    (later : ∀ a, (second a).isSome = true ↔ holds) :
    (first >>= second).isSome = true ↔ first.isSome = true ∧ holds := by
  cases first with
  | none => simp
  | some a => simpa using later a

namespace Text

/-- An integer can be written if it is smaller than the first with too many digits. -/
def FitsText (n : Int) : Prop :=
  n.natAbs < Nat.pow 10 integerDigitLimit

theorem writeInteger?_isSome_iff (n : Int) : (writeInteger? n).isSome = true ↔ FitsText n := by
  have short (limit : Nat) (positive : 0 < limit) :
      (ofNat n.natAbs).length ≤ limit ↔ n.natAbs < Nat.pow 10 limit :=
    Nat.length_toDigits_le_iff (by decide) positive
  rw [FitsText, ← short integerDigitLimit (by decide), writeInteger?]
  split <;> simp_all

theorem not_fitsText_power : ¬ FitsText (Nat.pow 10 integerDigitLimit : Nat) := by
  rw [FitsText, Int.natAbs_natCast]
  exact Nat.lt_irrefl _

end Text

namespace Value

/-- A value that can be displayed. -/
def HasText (value : Value) : Prop :=
  ∃ text, value.display? = some text

theorem hasText_str (text : Text) : (Value.str text).HasText :=
  ⟨text, rfl⟩

theorem not_hasText_iff {value : Value} : ¬value.HasText ↔ value.display? = Option.none := by
  rw [HasText, not_exists, Option.eq_none_iff_forall_ne_some]

mutual

/-- The integers that the literal form of a value shows. -/
def shownIntegers : Value → List Int
  | .int n => [n]
  | .list items => integersOfItems items
  | .tuple items => integersOfItems items
  | .dict entries => integersOfEntries entries
  | .token content type line character =>
      content.shownIntegers ++ type.shownIntegers ++ line.shownIntegers ++
        character.shownIntegers
  | .node operator left right =>
      operator.shownIntegers ++ left.shownIntegers ++ right.shownIntegers
  | .position line character => line.shownIntegers ++ character.shownIntegers
  | .result success consumed content =>
      success.shownIntegers ++ consumed.shownIntegers ++ content.shownIntegers
  | _ => []
termination_by structural value => value

def integersOfItems : List Value → List Int
  | [] => []
  | item :: rest => item.shownIntegers ++ integersOfItems rest
termination_by structural items => items

def integersOfEntries : List (Value × Value) → List Int
  | [] => []
  | entry :: rest => integersOfEntry entry ++ integersOfEntries rest
termination_by structural entries => entries

def integersOfEntry : Value × Value → List Int
  | (key, value) => key.shownIntegers ++ value.shownIntegers
termination_by structural entry => entry

end

def AllShort (integers : List Int) : Prop :=
  ∀ n ∈ integers, Text.FitsText n

@[simp] theorem allShort_nil : AllShort [] :=
  nofun

@[simp] theorem allShort_append {first second : List Int} :
    AllShort (first ++ second) ↔ AllShort first ∧ AllShort second :=
  List.forall_mem_append

mutual

theorem literal?_isSome_iff :
    ∀ value : Value, value.literal?.isSome = true ↔ AllShort value.shownIntegers
  | .none | .bool _ | .float _ | .str _ | .bytes _ | .iter _ => by
      simp [literal?, shownIntegers]
  | .int n => by
      rw [literal?, shownIntegers, Text.writeInteger?_isSome_iff, AllShort,
        List.forall_mem_singleton]
  | .list items => by
      rw [literal?, shownIntegers, isSome_bind_iff fun _ => iff_of_true rfl trivial,
        literals?_isSome_iff items, and_true]
  | .tuple items => by
      rw [literal?, shownIntegers, isSome_bind_iff fun _ => iff_of_true rfl trivial,
        literals?_isSome_iff items, and_true]
  | .dict entries => by
      rw [literal?, shownIntegers, isSome_bind_iff fun _ => iff_of_true rfl trivial,
        entryLiterals?_isSome_iff entries, and_true]
  | .token content type line character => by
      rw [literal?, shownIntegers, isSome_bind_iff fun _ => isSome_bind_iff fun _ =>
        isSome_bind_iff fun _ => isSome_bind_iff fun _ => iff_of_true rfl trivial,
        literal?_isSome_iff content, literal?_isSome_iff type, literal?_isSome_iff line,
        literal?_isSome_iff character]
      simp only [allShort_append, and_assoc, and_true]
  | .node operator left right => by
      rw [literal?, shownIntegers, isSome_bind_iff fun _ => isSome_bind_iff fun _ =>
        isSome_bind_iff fun _ => iff_of_true rfl trivial,
        literal?_isSome_iff operator, literal?_isSome_iff left, literal?_isSome_iff right]
      simp only [allShort_append, and_assoc, and_true]
  | .position line character => by
      rw [literal?, shownIntegers, isSome_bind_iff fun _ => isSome_bind_iff fun _ =>
        iff_of_true rfl trivial, literal?_isSome_iff line, literal?_isSome_iff character]
      simp
  | .result success consumed content => by
      rw [literal?, shownIntegers, isSome_bind_iff fun _ => isSome_bind_iff fun _ =>
        isSome_bind_iff fun _ => iff_of_true rfl trivial,
        literal?_isSome_iff success, literal?_isSome_iff consumed, literal?_isSome_iff content]
      simp only [allShort_append, and_assoc, and_true]
termination_by structural value => value

theorem literals?_isSome_iff :
    ∀ items, (literals? items).isSome = true ↔ AllShort (integersOfItems items)
  | [] => by simp [literals?, integersOfItems]
  | item :: rest => by
      rw [literals?, integersOfItems, isSome_bind_iff fun _ => isSome_bind_iff fun _ =>
        iff_of_true rfl trivial, literal?_isSome_iff item, literals?_isSome_iff rest]
      simp
termination_by structural items => items

theorem entryLiterals?_isSome_iff :
    ∀ entries, (entryLiterals? entries).isSome = true ↔ AllShort (integersOfEntries entries)
  | [] => by simp [entryLiterals?, integersOfEntries]
  | entry :: rest => by
      rw [entryLiterals?, integersOfEntries, isSome_bind_iff fun _ => isSome_bind_iff fun _ =>
        iff_of_true rfl trivial, entryLiteral?_isSome_iff entry, entryLiterals?_isSome_iff rest]
      simp
termination_by structural entries => entries

theorem entryLiteral?_isSome_iff :
    ∀ entry, (entryLiteral? entry).isSome = true ↔ AllShort (integersOfEntry entry)
  | (key, value) => by
      rw [entryLiteral?, integersOfEntry, isSome_bind_iff fun _ => isSome_bind_iff fun _ =>
        iff_of_true rfl trivial, literal?_isSome_iff key, literal?_isSome_iff value]
      simp
termination_by structural entry => entry

end

/-- A value has a text exactly if every integer that it shows is short enough to be written. -/
theorem hasText_iff (value : Value) : value.HasText ↔ AllShort value.shownIntegers := by
  rw [← literal?_isSome_iff, HasText, ← Option.isSome_iff_exists]
  cases value with
  | str text => simp [literal?]
  | _ => rfl

/-- Whatever has a display form has a literal form too, and the other way around. -/
theorem hasText_iff_literal? (value : Value) : value.HasText ↔ value.literal?.isSome = true :=
  (hasText_iff value).trans (literal?_isSome_iff value).symm

/-- The smallest integer that is too long to be written. -/
def longInteger : Value :=
  .int (Nat.pow 10 integerDigitLimit : Nat)

theorem literal?_longInteger : longInteger.literal? = Option.none := by
  have long := mt (Text.writeInteger?_isSome_iff _).mp Text.not_fitsText_power
  rw [longInteger, literal?]
  exact Option.not_isSome_iff_eq_none.mp long

theorem not_hasText_longInteger : ¬longInteger.HasText :=
  not_hasText_iff.mpr literal?_longInteger

@[simp] theorem symbol_longInteger : longInteger.symbol = longInteger :=
  rfl

end Value

end Lexwork
