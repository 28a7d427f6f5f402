import Lexwork.Proofs.Cut
import Lexwork.Proofs.Operator.Climbing

/-!
# The conventional tree of an infix sequence

Conventionally the loosest operator of a sequence is its root, the last of them
if there are several.  A yard applies at most one pending operator per operator
it is given, so it departs from that convention exactly where an operator was
suspended by a tighter one and a later operator, which binds no tighter than
the suspended one, should have applied both.
-/

namespace Lexwork

namespace Yard

variable {α : Type}

/-- A sequence of operators with their right operands, split at one of them. -/
structure Split (α : Type) where
  before : List (Value × α)
  root : Value × α
  after : List (Value × α)

/-- Splits a non-empty sequence at the last of its loosest operators. -/
def splitLoosest (level : Value → Int) : Value × α → List (Value × α) → Split α
  | first, [] => ⟨[], first, []⟩
  | first, second :: rest =>
      let later := splitLoosest level second rest
      if level later.root.1 ≤ level first.1 then { later with before := first :: later.before }
      else ⟨[], first, second :: rest⟩

/-- A split whose root is the last of the loosest operators of a sequence. -/
structure Split.AtLoosest (split : Split α) (level : Value → Int) (pairs : List (Value × α)) :
    Prop where
  whole : split.before ++ split.root :: split.after = pairs
  before_ge : ∀ pair ∈ split.before, level split.root.1 ≤ level pair.1
  after_gt : ∀ pair ∈ split.after, level split.root.1 < level pair.1

theorem Split.AtLoosest.root_le {split : Split α} {level : Value → Int}
    {pairs : List (Value × α)} (loosest : split.AtLoosest level pairs) {pair : Value × α}
    (inside : pair ∈ pairs) : level split.root.1 ≤ level pair.1 := by
  rw [← loosest.whole] at inside
  rcases List.mem_append.mp inside with inBefore | inRest
  · exact loosest.before_ge pair inBefore
  · rcases List.mem_cons.mp inRest with rfl | inAfter
    · exact Int.le_refl _
    · exact Int.le_of_lt (loosest.after_gt pair inAfter)

theorem splitLoosest_atLoosest (level : Value → Int) (first : Value × α)
    (rest : List (Value × α)) :
    (splitLoosest level first rest).AtLoosest level (first :: rest) := by
  fun_induction splitLoosest level first rest with
  | case1 first =>
      exact ⟨rfl, fun _ inside => absurd inside List.not_mem_nil,
        fun _ inside => absurd inside List.not_mem_nil⟩
  | case2 first second rest later looser ih =>
      refine ⟨congrArg (List.cons first) ih.whole, ?_, ih.after_gt⟩
      intro pair inside
      rcases List.mem_cons.mp inside with rfl | inBefore
      · exact looser
      · exact ih.before_ge pair inBefore
  | case3 first second rest later tighter ih =>
      refine ⟨rfl, fun _ inside => absurd inside List.not_mem_nil, ?_⟩
      intro pair inside
      have bound : level later.root.1 ≤ level pair.1 := ih.root_le inside
      dsimp only
      omega

theorem Split.AtLoosest.unique {level : Value → Int} {pairs : List (Value × α)}
    {first second : Split α} (left : first.AtLoosest level pairs)
    (right : second.AtLoosest level pairs) : first = second := by
  rcases first with ⟨before, root, after⟩
  rcases second with ⟨before', root', after'⟩
  obtain ⟨whole, before_ge, after_gt⟩ := left
  obtain ⟨whole', before_ge', after_gt'⟩ := right
  dsimp only at *
  rcases cut_trichotomy (whole.trans whole'.symm) with
    ⟨rfl, rfl, rfl⟩ | ⟨inBefore, inAfter⟩ | ⟨inBefore, inAfter⟩
  · rfl
  · have low := before_ge' root inBefore
    have high := after_gt root' inAfter
    omega
  · have low := before_ge root' inBefore
    have high := after_gt' root inAfter
    omega

theorem Split.AtLoosest.length_eq {level : Value → Int} {pairs : List (Value × α)}
    {split : Split α} (loosest : split.AtLoosest level pairs) :
    split.before.length + split.after.length + 1 = pairs.length := by
  rw [← loosest.whole]
  simp only [List.length_append, List.length_cons]
  omega

/-- The value of an infix sequence whose root is the last of its loosest operators. -/
def conventional (level : Value → Int) (f : Value → α → α → α) (x : α) :
    List (Value × α) → α
  | [] => x
  | first :: rest =>
      let split := splitLoosest level first rest
      f split.root.1 (conventional level f x split.before)
        (conventional level f split.root.2 split.after)
termination_by pairs => pairs.length
decreasing_by
  · have sizes := (splitLoosest_atLoosest level first rest).length_eq
    simp only [List.length_cons] at *
    omega
  · have sizes := (splitLoosest_atLoosest level first rest).length_eq
    simp only [List.length_cons] at *
    omega

variable {level : Value → Int} {f : Value → α → α → α}

@[simp] theorem conventional_nil (x : α) : conventional level f x [] = x := by
  rw [conventional]

/-- A sequence split at its root is the root applied to the values of both parts. -/
theorem conventional_of_split {split : Split α} {pairs : List (Value × α)}
    (loosest : split.AtLoosest level pairs) (x : α) :
    conventional level f x pairs =
      f split.root.1 (conventional level f x split.before)
        (conventional level f split.root.2 split.after) := by
  cases pairs with
  | nil =>
      have sizes := loosest.length_eq
      simp at sizes
  | cons first rest =>
      rw [conventional, (splitLoosest_atLoosest level first rest).unique loosest]

/-- If every later operator binds tighter, the first one is the root. -/
theorem conventional_of_forall_lt {o : Value} {a : α} {rest : List (Value × α)}
    (tighter : ∀ pair ∈ rest, level o < level pair.1) (x : α) :
    conventional level f x ((o, a) :: rest) = f o x (conventional level f a rest) := by
  have loosest : (⟨[], (o, a), rest⟩ : Split α).AtLoosest level ((o, a) :: rest) :=
    ⟨rfl, fun _ inside => absurd inside List.not_mem_nil, tighter⟩
  rw [conventional_of_split loosest, conventional_nil]

/-- If some later operator binds no tighter, the root is among the later ones. -/
theorem conventional_of_exists_le {o : Value} {a : α} {rest : List (Value × α)}
    (looser : ∃ pair ∈ rest, level pair.1 ≤ level o) :
    ∃ split : Split α, split.AtLoosest level rest ∧ ∀ x : α,
      conventional level f x ((o, a) :: rest) =
        f split.root.1 (conventional level f x ((o, a) :: split.before))
          (conventional level f split.root.2 split.after) := by
  obtain ⟨pair, inside, low⟩ := looser
  cases rest with
  | nil => cases inside
  | cons first rest =>
      have later := splitLoosest_atLoosest level first rest
      refine ⟨splitLoosest level first rest, later, fun x => ?_⟩
      have bound := Int.le_trans (later.root_le inside) low
      have whole : ({ splitLoosest level first rest with
            before := (o, a) :: (splitLoosest level first rest).before } : Split α).AtLoosest
          level ((o, a) :: first :: rest) := by
        refine ⟨congrArg (List.cons (o, a)) later.whole, ?_, later.after_gt⟩
        intro other member
        rcases List.mem_cons.mp member with rfl | inBefore
        · exact bound
        · exact later.before_ge other inBefore
      exact conventional_of_split whole x

/-- An operator whose right neighbour binds no tighter is applied to its own two operands. -/
theorem conventional_collapse {o : Value} {a : α} {rest : List (Value × α)}
    (descends : ∀ pair ∈ rest.head?, level pair.1 ≤ level o) (x : α) :
    conventional level f x ((o, a) :: rest) = conventional level f (f o x a) rest := by
  generalize sized : rest.length = size
  induction size using Nat.strongRecOn generalizing rest with
  | ind size ih =>
      cases rest with
      | nil => rw [conventional_of_forall_lt (by simp), conventional_nil, conventional_nil]
      | cons first rest =>
          have low : level first.1 ≤ level o := descends first rfl
          obtain ⟨split, later, shape⟩ :=
            conventional_of_exists_le (f := f) (a := a) ⟨first, List.mem_cons_self .., low⟩
          have sizes := later.length_eq
          have descends' : ∀ pair ∈ split.before.head?, level pair.1 ≤ level o := by
            intro pair inside
            have whole := later.whole
            cases before : split.before with
            | nil => simp [before] at inside
            | cons head tail =>
                rw [before, List.cons_append] at whole
                rw [before] at inside
                cases inside
                rw [(List.cons.inj whole).1]
                exact low
          rw [shape, conventional_of_split later,
            ih split.before.length (by omega) descends' rfl]

/--
An operator is followed by tighter ones and then by one that binds no tighter,
so that the latter should apply more than one pending operator.
-/
def Delayed (levels : List Int) : Prop :=
  ∃ i k low last, i + 2 ≤ k ∧ levels[i]? = some low ∧ levels[k]? = some last ∧ last ≤ low ∧
    ∀ j level, i < j → j < k → levels[j]? = some level → low < level

/-- The first of some numbers that is at most a bound. -/
theorem exists_first_le {bound : Int} {levels : List Int} (low : ∃ level ∈ levels, level ≤ bound) :
    ∃ k last, levels[k]? = some last ∧ last ≤ bound ∧
      ∀ (j : Nat) level, j < k → levels[j]? = some level → bound < level := by
  induction levels with
  | nil =>
      obtain ⟨level, inside, _⟩ := low
      cases inside
  | cons head tail ih =>
      by_cases here : head ≤ bound
      · exact ⟨0, head, rfl, here, fun j _ before => absurd before (Nat.not_lt_zero j)⟩
      · obtain ⟨level, inside, bounded⟩ := low
        have inTail : level ∈ tail := by
          rcases List.mem_cons.mp inside with rfl | inTail
          · exact absurd bounded here
          · exact inTail
        obtain ⟨k, last, found, atMost, above⟩ := ih ⟨level, inTail, bounded⟩
        refine ⟨k + 1, last, found, atMost, ?_⟩
        intro j level before present
        cases j with
        | zero =>
            cases present
            omega
        | succ j => exact above j level (Nat.lt_of_succ_lt_succ before) present

theorem not_delayed_nil : ¬ Delayed [] := by
  rintro ⟨_, _, _, _, _, impossible, _⟩
  cases impossible

/--
A delay is one of the later operators, or it starts at the first: with an ascent
that is followed by an operator as loose as the first.
-/
theorem delayed_cons_iff (first : Int) (levels : List Int) :
    Delayed (first :: levels) ↔
      Delayed levels ∨
        ((∃ level ∈ levels, level ≤ first) ∧ ∀ next ∈ levels.head?, first < next) := by
  rw [List.head?_eq_getElem?]
  constructor
  · rintro ⟨i, k, low, last, apart, foundLow, foundLast, atMost, between⟩
    obtain ⟨k, rfl⟩ : ∃ k', k = k' + 1 := ⟨k - 1, by omega⟩
    cases i with
    | zero =>
        cases foundLow
        refine .inr ⟨⟨last, List.mem_of_getElem? foundLast, atMost⟩, ?_⟩
        intro next isHead
        exact between 1 next (by omega) (by omega) isHead
    | succ i =>
        refine .inl ⟨i, k, low, last, by omega, foundLow, foundLast, atMost, ?_⟩
        intro j level after before present
        exact between (j + 1) level (by omega) (by omega) present
  · rintro (⟨i, k, low, last, apart, foundLow, foundLast, atMost, between⟩ | ⟨looser, ascends⟩)
    · refine ⟨i + 1, k + 1, low, last, by omega, foundLow, foundLast, atMost, ?_⟩
      intro j level after before present
      cases j with
      | zero => omega
      | succ j => exact between j level (by omega) (by omega) present
    · obtain ⟨k, last, found, atMost, above⟩ := exists_first_le looser
      cases k with
      | zero =>
          have tighter := ascends last found
          omega
      | succ k =>
          refine ⟨0, k + 2, first, last, by omega, rfl, found, atMost, ?_⟩
          intro j level after before present
          cases j with
          | zero => omega
          | succ j => exact above j level (by omega) present

/-! ## The yard and the convention -/

def nodeCount : Value → Nat
  | .node _ left right => nodeCount left + nodeCount right + 1
  | _ => 0

theorem nodeCount_le_conventional (level : Value → Int) (x : Value) (pairs : List (Value × Value)) :
    nodeCount x ≤ nodeCount (conventional level Value.node x pairs) := by
  generalize sized : pairs.length = size
  induction size using Nat.strongRecOn generalizing x pairs with
  | ind size ih =>
      cases pairs with
      | nil => simp only [conventional_nil, Nat.le_refl]
      | cons first rest =>
          have loosest := splitLoosest_atLoosest level first rest
          have sizes := loosest.length_eq
          have left := ih (splitLoosest level first rest).before.length (by omega) x _ rfl
          rw [conventional_of_split loosest, nodeCount]
          omega

theorem conventional_cons_ne (x : Value) (first : Value × Value) (rest : List (Value × Value)) :
    x ≠ conventional level Value.node x (first :: rest) := by
  intro same
  have counts := congrArg nodeCount same
  have loosest := splitLoosest_atLoosest level first rest
  have left := nodeCount_le_conventional level x (splitLoosest level first rest).before
  rw [conventional_of_split loosest, nodeCount] at counts
  omega

/-- Nesting neighbours agrees with the convention exactly if no operator is delayed. -/
theorem nest_eq_conventional_iff_not_delayed (level : Value → Int) (x : Value)
    (pairs : List (Value × Value)) :
    nest (fun second first => decide (level second ≤ level first)) Value.node x pairs =
        conventional level Value.node x pairs ↔
      ¬ Delayed (pairs.map fun pair => level pair.1) := by
  fun_induction nest (fun second first => decide (level second ≤ level first)) Value.node x
    pairs with
  | case1 x => simp [not_delayed_nil]
  | case2 x o a =>
      rw [conventional_of_forall_lt (by simp), conventional_nil]
      simp [delayed_cons_iff, not_delayed_nil]
  | case3 x o a o' a' rest collapses ih =>
      have descends : level o' ≤ level o := of_decide_eq_true collapses
      have noAscent : ¬ level o < level o' := Int.not_lt.mpr descends
      rw [conventional_collapse (by simpa using descends), ih]
      simp only [List.map_cons]
      rw [delayed_cons_iff (level o)]
      simp [noAscent]
  | case4 x o a o' a' rest ascends ih =>
      have ascends : level o < level o' := by simpa using ascends
      by_cases looser : ∃ pair ∈ (o', a') :: rest, level pair.1 ≤ level o
      · -- The root is a later operator, so the first operand alone is not the left part.
        have delayed : Delayed (((o, a) :: (o', a') :: rest).map fun pair => level pair.1) := by
          obtain ⟨pair, inside, low⟩ := looser
          have member : level pair.1 ∈ ((o', a') :: rest).map fun pair => level pair.1 :=
            List.mem_map.mpr ⟨pair, inside, rfl⟩
          apply (delayed_cons_iff _ _).mpr
          exact .inr ⟨⟨level pair.1, member, low⟩, by simpa using ascends⟩
        obtain ⟨split, _, shape⟩ := conventional_of_exists_le (f := Value.node) (a := a) looser
        rw [shape]
        constructor
        · intro same
          have left := (Value.node.inj same).2.1
          exact absurd left (conventional_cons_ne x (o, a) split.before)
        · intro free
          exact absurd delayed free
      · -- The first operator is the root: both trees have it on top, and the rest decides.
        have tighter : ∀ pair ∈ (o', a') :: rest, level o < level pair.1 := by
          intro pair inside
          exact Int.not_le.mp fun low => looser ⟨pair, inside, low⟩
        have noneLooser :
            ¬ ∃ l ∈ ((o', a') :: rest).map (fun pair => level pair.1), l ≤ level o := by
          rintro ⟨_, inside, low⟩
          obtain ⟨pair, member, rfl⟩ := List.mem_map.mp inside
          exact looser ⟨pair, member, low⟩
        rw [conventional_of_forall_lt tighter, List.map_cons, delayed_cons_iff]
        simp only [noneLooser, false_and, or_false, ← ih, Value.node.injEq, true_and]

theorem nest_congr {first second : Value → Value → Bool} (x : α) (pairs : List (Value × α))
    (agree : ∀ p ∈ pairs, ∀ q ∈ pairs, first q.1 p.1 = second q.1 p.1) :
    nest first f x pairs = nest second f x pairs := by
  fun_induction nest first f x pairs with
  | case1 x => rfl
  | case2 x o a => rfl
  | case3 x o a o' a' rest collapses ih =>
      have same := agree (o, a) (by simp) (o', a') (by simp)
      rw [nest, if_pos (same.symm.trans collapses)]
      exact ih fun p inside q within =>
        agree p (List.mem_cons_of_mem _ inside) q (List.mem_cons_of_mem _ within)
  | case4 x o a o' a' rest ascends ih =>
      have same := agree (o, a) (by simp) (o', a') (by simp)
      rw [nest, if_neg fun collapses => ascends (same.trans collapses)]
      rw [ih fun p inside q within =>
        agree p (List.mem_cons_of_mem _ inside) q (List.mem_cons_of_mem _ within)]

end Yard

namespace Table

def Integral (table : Table) : Prop :=
  ∀ entry ∈ table.entries, ∃ n, entry.2.number? = some (.int n)

def level (table : Table) (operator : Value) : Int :=
  match table.rank? operator with
  | some (.int n) => n
  | _ => 0

variable {table : Table}

theorem Integral.numeric (integral : table.Integral) : table.Numeric := by
  intro entry inside
  obtain ⟨n, valued⟩ := integral entry inside
  exact ⟨.int n, valued⟩

theorem Integral.rank? (integral : table.Integral) {operator : Value}
    (known : table.Knows operator) : table.rank? operator = some (.int (table.level operator)) := by
  obtain ⟨precedence, found⟩ := known
  obtain ⟨key, inside⟩ := mem_of_find? (find?_of_lookup found)
  obtain ⟨n, valued⟩ := integral (key, precedence) inside
  have ranked : table.rank? operator = some (.int n) := by
    rw [Table.rank?, find?_of_lookup found]
    exact valued
  rw [level, ranked]

theorem Integral.noTighter (integral : table.Integral) {second first : Value}
    (knownSecond : table.Knows second) (knownFirst : table.Knows first) :
    table.noTighter second first = decide (table.level second ≤ table.level first) := by
  rw [Table.noTighter, integral.rank? knownSecond, integral.rank? knownFirst]
  rfl

end Table

namespace Yard

/--
The tree that a yard builds from an infix sequence is the conventional one
exactly if no operator of the sequence is delayed.
-/
theorem assemble_conventional_iff (table : Table) (integral : table.Integral) (first : Value)
    (pairs : List (Value × Value)) (known : ∀ pair ∈ pairs, table.Knows pair.1) :
    ∃ tree, assemble table Combine.node first pairs {} = .ok tree {} ∧
      (tree = conventional table.level Value.node first pairs ↔
        ¬ Delayed (pairs.map fun pair => table.level pair.1)) := by
  have settled := settles_assemble Combine.node integral.numeric first pairs known
  have built : climb table.noTighter Combine.node first pairs =
      .ok (nest table.noTighter Value.node first pairs) :=
    climb_ok table.noTighter Value.node first pairs
  rw [built] at settled
  refine ⟨_, settled, ?_⟩
  have compared : nest table.noTighter Value.node first pairs =
      nest (fun second first => decide (table.level second ≤ table.level first)) Value.node
        first pairs := by
    apply nest_congr
    intro p inside q within
    exact integral.noTighter (known q within) (known p inside)
  rw [compared]
  exact nest_eq_conventional_iff_not_delayed table.level first pairs

theorem assemble_conventional_iff_arithmetic :
    Table.arithmetic.Integral ∧ Delayed [1, 2, 1] ∧
      ∃ tree, assemble Table.arithmetic Combine.node (.int 1)
          [("-", .int 2), ("*", .int 3), ("-", .int 4)] {} = .ok tree {} ∧
        tree ≠ conventional Table.arithmetic.level Value.node (.int 1)
          [("-", .int 2), ("*", .int 3), ("-", .int 4)] := by
  have integral : Table.arithmetic.Integral := by
    simp [Table.Integral, Table.arithmetic, Value.number?]
  have delayed : Delayed [1, 2, 1] :=
    (delayed_cons_iff _ _).mpr (.inr ⟨⟨1, by decide, by decide⟩, by simp⟩)
  have known : ∀ pair ∈ ([("-", .int 2), ("*", .int 3), ("-", .int 4)] : List (Value × Value)),
      Table.arithmetic.Knows pair.1 := by
    simp only [List.mem_cons, List.not_mem_nil, or_false, forall_eq_or_imp, forall_eq]
    exact ⟨⟨.int 1, rfl⟩, ⟨.int 2, rfl⟩, ⟨.int 1, rfl⟩⟩
  obtain ⟨tree, built, same⟩ :=
    assemble_conventional_iff Table.arithmetic integral (.int 1) _ known
  exact ⟨integral, delayed, tree, built, fun equal => same.mp equal delayed⟩

end Yard

end Lexwork
