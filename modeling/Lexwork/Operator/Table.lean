import Lexwork.Fault
import Lexwork.Value.Equality

/-!
# Precedence tables

A table gives operator symbols their precedences; a higher one binds tighter.
A symbol that cannot be a key can neither be entered nor looked up.
-/

namespace Lexwork

/-- Precedences by symbol.  Every symbol can be a key, and no later one equals an earlier one. -/
structure Table where
  entries : List (Value × Value)
  keys : ∀ entry ∈ entries, entry.1.isKey = true
  apart : entries.Pairwise fun earlier later => later.1.same earlier.1 = false

namespace Table

/-- Puts a precedence into a list of entries; an equal symbol keeps its place. -/
def put (symbol precedence : Value) : List (Value × Value) → List (Value × Value)
  | [] => [(symbol, precedence)]
  | (key, value) :: rest =>
      if symbol.same key then (key, precedence) :: rest
      else (key, value) :: put symbol precedence rest

section Entries

variable {symbol value : Value} {entries : List (Value × Value)}

theorem mem_put {entry : Value × Value} (inside : entry ∈ put symbol value entries) :
    entry.1 = symbol ∨ ∃ other ∈ entries, entry.1 = other.1 := by
  induction entries with
  | nil => exact .inl (congrArg Prod.fst (List.mem_singleton.mp inside))
  | cons first rest ih =>
      rw [put] at inside
      split at inside
      · rcases List.mem_cons.mp inside with rfl | later
        · exact .inr ⟨first, List.mem_cons_self .., rfl⟩
        · exact .inr ⟨entry, List.mem_cons_of_mem _ later, rfl⟩
      · rcases List.mem_cons.mp inside with rfl | later
        · exact .inr ⟨_, List.mem_cons_self .., rfl⟩
        · refine (ih later).imp_right ?_
          rintro ⟨other, found, equal⟩
          exact ⟨other, List.mem_cons_of_mem _ found, equal⟩

theorem keys_put (keys : ∀ entry ∈ entries, entry.1.isKey = true) (key : symbol.isKey = true) :
    ∀ entry ∈ put symbol value entries, entry.1.isKey = true := by
  intro entry inside
  rcases mem_put inside with isSymbol | ⟨other, found, equal⟩
  · exact isSymbol ▸ key
  · exact equal ▸ keys other found

theorem apart_put
    (apart : entries.Pairwise fun earlier later => later.1.same earlier.1 = false) :
    (put symbol value entries).Pairwise fun earlier later =>
      later.1.same earlier.1 = false := by
  induction entries with
  | nil => exact List.pairwise_singleton ..
  | cons first rest ih =>
      obtain ⟨here, later⟩ := List.pairwise_cons.mp apart
      rw [put]
      split
      · exact List.pairwise_cons.mpr ⟨here, later⟩
      · rename_i other
        -- The symbol differs from this key, and so does every key that was there before.
        refine List.pairwise_cons.mpr ⟨?_, ih later⟩
        intro entry inside
        rcases mem_put inside with isSymbol | ⟨earlier, found, equal⟩
        · exact isSymbol ▸ Bool.eq_false_iff.mpr other
        · exact equal ▸ here earlier found

end Entries

/-- The table with a precedence entered for a symbol, which has to be a possible key. -/
def enter (table : Table) (pair : Value × Value) : Except Fault Table :=
  if key : pair.1.isKey = true then
    .ok ⟨put pair.1 pair.2 table.entries, keys_put table.keys key, apart_put table.apart⟩
  else
    .error .typeMismatch

def empty : Table :=
  ⟨[], nofun, .nil⟩

def ofPairs (pairs : List (Value × Value)) : Except Fault Table :=
  pairs.foldlM enter empty

def find? (table : Table) (symbol : Value) : Option Value :=
  (table.entries.find? fun entry => symbol.same entry.1).map (·.2)

def lookup (table : Table) (symbol : Value) : Except Fault (Option Value) :=
  if symbol.isKey then .ok (table.find? symbol) else .error .typeMismatch

def precedence (table : Table) (operator : Value) : Except Fault Value :=
  match table.lookup operator.symbol with
  | .error fault => .error fault
  | .ok none => .error (.unknownKey operator.symbol)
  | .ok (some value) => .ok value

/-- Whether a precedence is at most that of an operator. -/
def yields (table : Table) (precedence operator : Value) : Except Fault Bool :=
  match table.precedence operator with
  | .error fault => .error fault
  | .ok other =>
      match precedence.atMost? other with
      | some answer => .ok answer
      | none => .error .typeMismatch

def arithmetic : Table where
  entries := [("+", .int 1), ("-", .int 1), ("*", .int 2), ("/", .int 2)]
  keys := by decide
  apart := by decide

end Table

end Lexwork
