import Lexwork.Value.Basic

/-!
# Equality of values

Numbers are equal if their values are, whatever their kinds; truth values count
as zero and one.  Sequences are equal item by item, dictionaries entry by entry
in any order, and values with named fields field by field.  A value that is or
holds a list or a dictionary cannot be a key.
-/

namespace Lexwork

/-- A number, as far as comparisons see it. -/
inductive Number
  | int (n : Int)
  | double (x : Double)
  deriving DecidableEq, Repr

namespace Number

/-- The ordering key of a number, shared by integers and doubles. -/
def rank? : Number → Option (Int × Int)
  | .int n => some (0, n * Nat.pow 2 Double.unitShift)
  | .double x => x.rank?

def same : Number → Number → Bool
  | .int a, .int b => a == b
  | a, b =>
      match a.rank?, b.rank? with
      | some x, some y => x == y
      | _, _ => false

/-- Whether the first number is at most the second. -/
def atMost : Number → Number → Bool
  | .int a, .int b => decide (a ≤ b)
  | a, b =>
      match a.rank?, b.rank? with
      | some x, some y => decide (x.1 < y.1) || (x.1 == y.1 && decide (x.2 ≤ y.2))
      | _, _ => false

end Number

namespace Value

def number? : Value → Option Number
  | .bool b => some (.int (if b then 1 else 0))
  | .int n => some (.int n)
  | .float x => some (.double x)
  | _ => Option.none

mutual

def same : Value → Value → Bool
  | .none, .none => true
  | .str a, .str b => a == b
  | .bytes a, .bytes b => a == b
  | .list xs, .list ys => sameItems xs ys
  | .tuple xs, .tuple ys => sameItems xs ys
  | .dict xs, .dict ys => xs.length == ys.length && entriesIn xs ys
  | .token a b c d, .token e f g h => a.same e && b.same f && c.same g && d.same h
  | .node a b c, .node d e f => a.same d && b.same e && c.same f
  | .position a b, .position c d => a.same c && b.same d
  | .result a b c, .result d e f => a.same d && b.same e && c.same f
  | a, b =>
      match a.number?, b.number? with
      | some x, some y => x.same y
      | _, _ => false
termination_by structural value => value

def sameItems : List Value → List Value → Bool
  | [], [] => true
  | x :: xs, y :: ys => x.same y && sameItems xs ys
  | _, _ => false
termination_by structural items => items

def entriesIn : List (Value × Value) → List (Value × Value) → Bool
  | [], _ => true
  | entry :: rest, entries => entryIn entry entries && entriesIn rest entries
termination_by structural entries => entries

def entryIn : Value × Value → List (Value × Value) → Bool
  | (key, value), entries => entries.any fun other => key.same other.1 && value.same other.2
termination_by structural entry => entry

end

mutual

/-- Whether a value can be a key: neither it nor a field of it is a list or a dictionary. -/
def isKey : Value → Bool
  | .list _ => false
  | .dict _ => false
  | .tuple items => areKeys items
  | .token a b c d => a.isKey && b.isKey && c.isKey && d.isKey
  | .node a b c => a.isKey && b.isKey && c.isKey
  | .position a b => a.isKey && b.isKey
  | .result a b c => a.isKey && b.isKey && c.isKey
  | _ => true
termination_by structural value => value

def areKeys : List Value → Bool
  | [] => true
  | item :: rest => item.isKey && areKeys rest
termination_by structural items => items

end

/--
Whether the first value is at most the second: numbers by value, texts by their
first differing character.  Other pairs have no order.
-/
def atMost? : Value → Value → Option Bool
  | .str a, .str b => some (a.atMost b)
  | a, b =>
      match a.number?, b.number? with
      | some x, some y => some (x.atMost y)
      | _, _ => Option.none

theorem same_str (value : Value) (text : Text) :
    value.same (.str text) = true ↔ value = .str text := by
  cases value <;> simp [same, number?]

theorem same_int (n : Int) : (Value.int n).same (.int n) = true := by
  simp [same, number?, Number.same]

end Value

end Lexwork
