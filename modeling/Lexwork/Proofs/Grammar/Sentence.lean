import Lexwork.Grammar.Expression
import Lexwork.Proofs.Operator.Climbing

/-!
# Sentences of expressions

The grammar of expressions says which lists of tokens are sentences: operands
with known operators between them, where an operand is an atom or a sentence in
parentheses.  A counter of open parentheses and the phase, operand or operator,
are enough to read a sentence from left to right.  Every state of that reading
can be completed, so a list of tokens starts a sentence exactly if it can be
read.
-/

namespace Lexwork

namespace Grammar

/-- A token of a given type. -/
def IsOfType (type : Text) (item : Value) : Prop :=
  ∃ content line character, item = .token content (.str type) line character

def IsOperator (table : Table) (item : Value) : Prop :=
  IsOfType "operator" item ∧ table.Knows item

theorem IsOfType.unique {first second : Text} {item : Value} (left : IsOfType first item)
    (right : IsOfType second item) : first = second := by
  obtain ⟨_, _, _, rfl⟩ := left
  obtain ⟨_, _, _, same⟩ := right
  exact Value.str.inj (Value.token.inj same).2.1

theorem isOfType_iff_same {content type line character : Value} {wanted : Text} :
    IsOfType wanted (.token content type line character) ↔ type.same (.str wanted) = true := by
  rw [Value.same_str]
  constructor
  · rintro ⟨_, _, _, equal⟩
    exact (Value.token.inj equal).2.1
  · rintro rfl
    exact ⟨content, line, character, rfl⟩

theorem not_isOfType_iff_same {content type line character : Value} {wanted : Text} :
    ¬ IsOfType wanted (.token content type line character) ↔ type.same (.str wanted) = false := by
  rw [isOfType_iff_same, Bool.not_eq_true]

mutual

/-- Operands with known operators between them. -/
inductive Sentence (atoms : List Text) (table : Table) : List Value → Prop
  | operand {items : List Value} (only : Operand atoms table items) :
      Sentence atoms table items
  | binary {left right : List Value} {operator : Value} (first : Sentence atoms table left)
      (between : IsOperator table operator) (last : Operand atoms table right) :
      Sentence atoms table (left ++ operator :: right)

/-- A token of a type listed as an atom, or a sentence in parentheses. -/
inductive Operand (atoms : List Text) (table : Table) : List Value → Prop
  | atom {type : Text} {item : Value} (listed : type ∈ atoms) (typed : IsOfType type item) :
      Operand atoms table [item]
  | group {opening closing : Value} {items : List Value} (opens : IsOfType "open paren" opening)
      (inner : Sentence atoms table items) (closes : IsOfType "close paren" closing) :
      Operand atoms table (opening :: (items ++ [closing]))

end

/-- A list of tokens that some sentence starts with. -/
def Viable (atoms : List Text) (table : Table) (items : List Value) : Prop :=
  ∃ more, Sentence atoms table (items ++ more)

/-! ## Reading from left to right -/

/-- What one token does to the phase and to the number of open parentheses. -/
inductive Move (atoms : List Text) (table : Table) : Phase → Nat → Value → Phase → Nat → Prop
  | opening {depth : Nat} {item : Value} (opens : IsOfType "open paren" item) :
      Move atoms table .operand depth item .operand (depth + 1)
  | atom {depth : Nat} {type : Text} {item : Value} (listed : type ∈ atoms)
      (typed : IsOfType type item) :
      Move atoms table .operand depth item .operator depth
  | binary {depth : Nat} {item : Value} (between : IsOperator table item) :
      Move atoms table .operator depth item .operand depth
  | closing {depth : Nat} {item : Value} (closes : IsOfType "close paren" item) :
      Move atoms table .operator (depth + 1) item .operator depth

/-- Moves over a list of tokens. -/
inductive Path (atoms : List Text) (table : Table) :
    Phase → Nat → List Value → Phase → Nat → Prop
  | done (phase : Phase) (depth : Nat) : Path atoms table phase depth [] phase depth
  | move {phase next last : Phase} {depth after final : Nat} {item : Value} {items : List Value}
      (first : Move atoms table phase depth item next after)
      (rest : Path atoms table next after items last final) :
      Path atoms table phase depth (item :: items) last final

variable {atoms : List Text} {table : Table}

theorem Move.of_operand {depth within : Nat} {item : Value} {next : Phase}
    (move : Move atoms table .operand depth item next within) :
    IsOfType "open paren" item ∨ ∃ type ∈ atoms, IsOfType type item := by
  cases move with
  | opening opens => exact .inl opens
  | atom listed typed => exact .inr ⟨_, listed, typed⟩

theorem Move.of_operator {depth within : Nat} {item : Value} {next : Phase}
    (move : Move atoms table .operator depth item next within) :
    IsOperator table item ∨ IsOfType "close paren" item ∧ depth = within + 1 := by
  cases move with
  | binary between => exact .inl between
  | closing closes => exact .inr ⟨closes, rfl⟩

theorem Move.isOperator_of_zero {within : Nat} {item : Value} {next : Phase}
    (move : Move atoms table .operator 0 item next within) : IsOperator table item := by
  cases move with
  | binary between => exact between

theorem Move.unique (apart : "open paren".toList ∉ atoms) {phase next next' : Phase}
    {depth after after' : Nat} {item : Value} (left : Move atoms table phase depth item next after)
    (right : Move atoms table phase depth item next' after') : next = next' ∧ after = after' := by
  cases left with
  | opening opens =>
      cases right with
      | opening _ => exact ⟨rfl, rfl⟩
      | atom listed typed => exact absurd (opens.unique typed ▸ listed) apart
  | atom listed typed =>
      cases right with
      | opening opens => exact absurd (opens.unique typed ▸ listed) apart
      | atom _ _ => exact ⟨rfl, rfl⟩
  | binary between =>
      cases right with
      | binary _ => exact ⟨rfl, rfl⟩
      | closing closes => exact absurd (between.1.unique closes) (by decide)
  | closing closes =>
      cases right with
      | binary between => exact absurd (between.1.unique closes) (by decide)
      | closing _ => exact ⟨rfl, rfl⟩

theorem Path.append {phase middle last : Phase} {depth within final : Nat}
    {items more : List Value} (first : Path atoms table phase depth items middle within)
    (rest : Path atoms table middle within more last final) :
    Path atoms table phase depth (items ++ more) last final := by
  induction first with
  | done => exact rest
  | move first _ ih => exact .move first (ih rest)

theorem Path.split {phase last : Phase} {depth final : Nat} {items more : List Value}
    (path : Path atoms table phase depth (items ++ more) last final) :
    ∃ middle within, Path atoms table phase depth items middle within ∧
      Path atoms table middle within more last final := by
  induction items generalizing phase depth with
  | nil => exact ⟨phase, depth, .done phase depth, path⟩
  | cons item items ih =>
      cases path with
      | move first rest =>
          obtain ⟨middle, within, before, after⟩ := ih rest
          exact ⟨middle, within, .move first before, after⟩

theorem Path.unique (apart : "open paren".toList ∉ atoms) {phase last last' : Phase}
    {depth final final' : Nat} {items : List Value}
    (left : Path atoms table phase depth items last final)
    (right : Path atoms table phase depth items last' final') : last = last' ∧ final = final' := by
  induction left with
  | done =>
      cases right
      exact ⟨rfl, rfl⟩
  | move first _ ih =>
      cases right with
      | move first' rest' =>
          obtain ⟨rfl, rfl⟩ := first.unique apart first'
          exact ih rest'

mutual

theorem Sentence.path {items : List Value} (sentence : Sentence atoms table items) (depth : Nat) :
    Path atoms table .operand depth items .operator depth :=
  match sentence with
  | .operand only => only.path depth
  | .binary first between last =>
      (first.path depth).append (.move (.binary between) (last.path depth))

theorem Operand.path {items : List Value} (operand : Operand atoms table items) (depth : Nat) :
    Path atoms table .operand depth items .operator depth :=
  match operand with
  | .atom listed typed => .move (.atom listed typed) (.done _ _)
  | .group opens inner closes =>
      .move (.opening opens) ((inner.path (depth + 1)).append (.move (.closing closes) (.done _ _)))

end

/-- What follows a sentence: nothing, or a closing parenthesis and what follows that. -/
def Closes (atoms : List Text) (table : Table) : Nat → List Value → Prop
  | 0, items => items = []
  | depth + 1, items =>
      ∃ closing later, items = closing :: later ∧ IsOfType "close paren" closing ∧
        Path atoms table .operator depth later .operator 0

/--
A reading to the end from either phase starts with an operand, or prolongs any
sentence before it to the point where its parenthesis closes.
-/
theorem Path.derives {phase : Phase} {depth : Nat} {items : List Value}
    (path : Path atoms table phase depth items .operator 0) :
    match phase with
    | .operand => ∃ first rest, items = first ++ rest ∧ Operand atoms table first ∧
        Path atoms table .operator depth rest .operator 0
    | .operator => ∀ left, Sentence atoms table left →
        ∃ more rest, items = more ++ rest ∧ Sentence atoms table (left ++ more) ∧
          Closes atoms table depth rest := by
  generalize sized : items.length = size
  induction size using Nat.strongRecOn generalizing phase depth items with
  | ind size ih =>
      cases path with
      | done =>
          intro left sentence
          exact ⟨[], [], rfl, by simpa using sentence, rfl⟩
      | @move _ _ _ _ _ _ item items first rest =>
          simp only [List.length_cons] at sized
          cases first with
          | opening opens =>
              obtain ⟨operand, tail, rfl, derived, outer⟩ := ih items.length (by omega) rest rfl
              simp only [List.length_append] at sized
              obtain ⟨more, last, rfl, inner, closing, later, rfl, closes, after⟩ :=
                ih tail.length (by omega) outer rfl operand (.operand derived)
              refine ⟨item :: ((operand ++ more) ++ [closing]), later, by simp,
                .group opens inner closes, after⟩
          | atom listed typed => exact ⟨[item], items, rfl, .atom listed typed, rest⟩
          | binary between =>
              intro left sentence
              obtain ⟨operand, tail, rfl, derived, outer⟩ := ih items.length (by omega) rest rfl
              simp only [List.length_append] at sized
              obtain ⟨more, last, rfl, longer, closed⟩ :=
                ih tail.length (by omega) outer rfl _ (.binary sentence between derived)
              exact ⟨item :: (operand ++ more), last, by simp, by simpa using longer, closed⟩
          | closing closes =>
              intro left sentence
              exact ⟨[], item :: items, rfl, by simpa using sentence,
                item, items, rfl, closes, rest⟩

/-- Sentences are exactly the lists that are read from an operand to the end. -/
theorem sentence_iff_path {items : List Value} :
    Sentence atoms table items ↔ Path atoms table .operand 0 items .operator 0 := by
  constructor
  · intro sentence
    exact sentence.path 0
  · intro path
    obtain ⟨operand, rest, rfl, derived, after⟩ := path.derives
    obtain ⟨more, last, rfl, sentence, ended⟩ := after.derives operand (.operand derived)
    have ended : last = [] := ended
    rw [ended, List.append_nil]
    exact sentence

theorem exists_path_closing (atoms : List Text) (table : Table) (depth : Nat) :
    ∃ items, Path atoms table .operator depth items .operator 0 := by
  induction depth with
  | zero => exact ⟨[], .done _ _⟩
  | succ depth ih =>
      obtain ⟨items, path⟩ := ih
      exact ⟨.token .none "close paren" .none .none :: items,
        .move (.closing ⟨_, _, _, rfl⟩) path⟩

/-- Every state of a reading can be completed, if there is an atom to stand where one is wanted. -/
theorem exists_path_end (table : Table) {atom : Text} (listed : atom ∈ atoms) (phase : Phase)
    (depth : Nat) :
    ∃ items, Path atoms table phase depth items .operator 0 := by
  obtain ⟨items, path⟩ := exists_path_closing atoms table depth
  cases phase with
  | operator => exact ⟨items, path⟩
  | operand =>
      exact ⟨.token .none (.str atom) .none .none :: items,
        .move (.atom listed ⟨_, _, _, rfl⟩) path⟩

/-- A list of tokens starts a sentence exactly if it can be read. -/
theorem viable_iff_path {atom : Text} (listed : atom ∈ atoms) {items : List Value} :
    Viable atoms table items ↔ ∃ phase depth, Path atoms table .operand 0 items phase depth := by
  constructor
  · rintro ⟨more, sentence⟩
    obtain ⟨phase, depth, path, _⟩ := (sentence_iff_path.mp sentence).split
    exact ⟨phase, depth, path⟩
  · rintro ⟨phase, depth, path⟩
    obtain ⟨more, rest⟩ := exists_path_end table listed phase depth
    exact ⟨more, sentence_iff_path.mpr (path.append rest)⟩

end Grammar

end Lexwork
