import Lexwork.Regex.Reader

/-!
# What the lexemes of a pattern build

A pattern written in certain lexemes is read as a node that these lexemes can build: it
has no anchor, reference or look-around that none of them asks for.  While the pattern is
read, that is so of every item and every branch that was built, and every group that is
still open was opened by one of the lexemes; so it is so of what is read in the end,
whatever the options.
-/

namespace Lexwork

namespace Regex

variable {allowed : Lexeme → Bool}

/-- Whether a lexeme was read, and one of those allowed. -/
def Placed.isOf (allowed : Lexeme → Bool) (placed : Placed) : Bool :=
  match placed.outcome with
  | .ok lexeme => allowed lexeme
  | .error _ => false

/-- Whether a pattern, read with the given options, consists of lexemes that are allowed. -/
def writtenIn (allowed : Lexeme → Bool) (flags : Flags) (pattern : Text) : Bool :=
  (lexemes (Glyph.dangling pattern) flags.verbose 0 0 (Glyph.ofText pattern)).all
    (Placed.isOf allowed)

/-- A node in which everything but sets, and what joins and repeats nodes, was asked for. -/
inductive Node.BuiltFrom (allowed : Lexeme → Bool) : Node → Prop
  | empty : BuiltFrom allowed .empty
  | set (chars : CharSet) : BuiltFrom allowed (.set chars)
  | seq {first second : Node} (head : BuiltFrom allowed first) (tail : BuiltFrom allowed second) :
      BuiltFrom allowed (.seq first second)
  | alt {first second : Node} (left : BuiltFrom allowed first)
      (right : BuiltFrom allowed second) : BuiltFrom allowed (.alt first second)
  | capture (group : Nat) {body : Node} (inner : BuiltFrom allowed body) :
      BuiltFrom allowed (.capture group body)
  | loop (reluctant : Bool) (least : Nat) (most : Option Nat) {body : Node}
      (inner : BuiltFrom allowed body) : BuiltFrom allowed (.loop reluctant least most body)
  | numbered (fold : Bool) {group : Nat} (asked : allowed (.reference group) = true) :
      BuiltFrom allowed (.reference fold group)
  | named (fold : Bool) (group : Nat) {name : Text}
      (asked : allowed (.namedReference name) = true) : BuiltFrom allowed (.reference fold group)
  | ahead {negated : Bool} {body : Node} (asked : allowed (.opening (.ahead negated)) = true)
      (inner : BuiltFrom allowed body) : BuiltFrom allowed (.ahead negated body)
  | behind {negated : Bool} (width : Nat) {body : Node}
      (asked : allowed (.opening (.behind negated)) = true) (inner : BuiltFrom allowed body) :
      BuiltFrom allowed (.behind negated width body)
  | anchor (multiline : Bool) {kind : Anchor} (asked : allowed (.anchor kind) = true) :
      BuiltFrom allowed (.anchor multiline kind)

theorem Node.BuiltFrom.concat {nodes : List Node}
    (built : ∀ node ∈ nodes, node.BuiltFrom allowed) : (Node.concat nodes).BuiltFrom allowed := by
  induction nodes with
  | nil => exact .empty
  | cons node rest ih =>
      obtain ⟨head, tail⟩ := List.forall_mem_cons.mp built
      exact .seq head (ih tail)

theorem Node.BuiltFrom.either {first : Node} {rest : List Node}
    (built : ∀ node ∈ first :: rest, node.BuiltFrom allowed) :
    (Node.either first rest).BuiltFrom allowed := by
  induction rest generalizing first with
  | nil => exact built first List.mem_cons_self
  | cons next rest ih =>
      obtain ⟨head, tail⟩ := List.forall_mem_cons.mp built
      exact .alt head (ih tail)

structure Branches.BuiltFrom (allowed : Lexeme → Bool) (branches : Branches) : Prop where
  finished : ∀ node ∈ branches.finished, node.BuiltFrom allowed
  items : ∀ item ∈ branches.items, item.node.BuiltFrom allowed

namespace Branches.BuiltFrom

variable {branches : Branches}

theorem empty : Branches.empty.BuiltFrom allowed :=
  ⟨nofun, nofun⟩

theorem add (built : branches.BuiltFrom allowed) {node : Node} (sound : node.BuiltFrom allowed)
    (role : Role) : (branches.add node role).BuiltFrom allowed :=
  ⟨built.finished, List.forall_mem_cons.mpr ⟨sound, built.items⟩⟩

theorem lastBranch (built : branches.BuiltFrom allowed) :
    branches.lastBranch.BuiltFrom allowed := by
  refine .concat fun node inside => ?_
  obtain ⟨item, among, rfl⟩ := List.mem_map.mp inside
  exact built.items item (List.mem_reverse.mp among)

theorem divide (built : branches.BuiltFrom allowed) : branches.divide.BuiltFrom allowed :=
  ⟨List.forall_mem_cons.mpr ⟨built.lastBranch, built.finished⟩, nofun⟩

theorem node (built : branches.BuiltFrom allowed) : branches.node.BuiltFrom allowed := by
  have all : ∀ node ∈ (branches.lastBranch :: branches.finished).reverse,
      node.BuiltFrom allowed :=
    fun node inside => built.divide.finished node (List.mem_reverse.mp inside)
  rw [Branches.node]
  split
  · rename_i first rest shape
    exact .either (shape ▸ all)
  · exact .empty

end Branches.BuiltFrom

/-- A group that an allowed lexeme has opened. -/
inductive Closing.BuiltFrom (allowed : Lexeme → Bool) : Closing → Prop
  | plain : BuiltFrom allowed .plain
  | capture (group : Nat) : BuiltFrom allowed (.capture group)
  | ahead {negated : Bool} (asked : allowed (.opening (.ahead negated)) = true) :
      BuiltFrom allowed (.ahead negated)
  | behind {negated : Bool} (outerFloor : Option Nat)
      (asked : allowed (.opening (.behind negated)) = true) :
      BuiltFrom allowed (.behind negated outerFloor)

structure Builder.BuiltFrom (allowed : Lexeme → Bool) (builder : Builder) : Prop where
  opened : ∀ group ∈ builder.opened,
    group.closing.BuiltFrom allowed ∧ group.outer.BuiltFrom allowed
  current : builder.current.BuiltFrom allowed

namespace Builder.BuiltFrom

variable {builder next : Builder}

theorem start (flags : Flags) : Builder.BuiltFrom allowed { flags } :=
  ⟨nofun, .empty⟩

theorem add (built : builder.BuiltFrom allowed) {node : Node} (sound : node.BuiltFrom allowed)
    (role : Role) : (builder.add node role).BuiltFrom allowed :=
  ⟨built.opened, built.current.add sound role⟩

theorem push (built : builder.BuiltFrom allowed) {closing : Closing}
    (sound : closing.BuiltFrom allowed) (start : Nat) :
    (builder.push start closing).BuiltFrom allowed :=
  ⟨List.forall_mem_cons.mpr ⟨⟨sound, built.current⟩, built.opened⟩, .empty⟩

theorem addReference (built : builder.BuiltFrom allowed) {group start stop : Nat}
    (sound : ∀ fold, (Node.reference fold group).BuiltFrom allowed)
    (taken : builder.addReference group start stop = .ok next) : next.BuiltFrom allowed := by
  rw [Builder.addReference] at taken
  split at taken
  · cases taken
  · split at taken
    · cases taken
    · cases taken
      exact built.add (sound _) .ordinary

/-- Only an item that is there is repeated, and it was built before. -/
theorem quantify (built : builder.BuiltFrom allowed) {least : Nat} {most : Option Nat}
    {manner : Manner} {start : Nat}
    (taken : builder.quantify least most manner start = .ok next) :
    next.BuiltFrom allowed := by
  have items := built.current.items
  rw [Builder.quantify] at taken
  split at taken
  · cases taken
  · cases taken
  · cases taken
  · rename_i node rest shape
    rw [shape] at items
    obtain ⟨last, others⟩ := List.forall_mem_cons.mp items
    split at taken
    · cases taken
    · cases taken
      exact ⟨built.opened, built.current.finished,
        List.forall_mem_cons.mpr ⟨.loop _ least most last, others⟩⟩

theorem openCapture (built : builder.BuiltFrom allowed) {name? : Option Text}
    {start nameStart : Nat} (taken : builder.openCapture name? start nameStart = .ok next) :
    next.BuiltFrom allowed := by
  have pushed := built.push (.capture (builder.widths.length + 1)) start
  simp only [Builder.openCapture] at taken
  split at taken
  · cases taken
    exact ⟨pushed.opened, pushed.current⟩
  · split at taken
    · cases taken
    · cases taken
      exact ⟨pushed.opened, pushed.current⟩

theorem openBehind (built : builder.BuiltFrom allowed) {negated : Bool}
    (asked : allowed (.opening (.behind negated)) = true) (start : Nat) :
    (builder.openBehind negated start).BuiltFrom allowed := by
  have pushed := built.push (.behind builder.floor asked) start
  exact ⟨pushed.opened, pushed.current⟩

theorem close (built : builder.BuiltFrom allowed) {closing : Closing}
    (sound : closing.BuiltFrom allowed) {body : Node} (inner : body.BuiltFrom allowed) :
    (builder.close closing body).BuiltFrom allowed := by
  cases sound with
  | plain => exact built.add inner .ordinary
  | capture group =>
      exact ⟨built.opened, built.current.add (.capture group inner) .ordinary⟩
  | ahead asked => exact built.add (.ahead asked inner) .ordinary
  | behind outerFloor asked =>
      exact ⟨built.opened, built.current.add (.behind _ asked inner) .ordinary⟩

theorem pop (built : builder.BuiltFrom allowed) {start : Nat}
    (taken : builder.pop start = .ok next) : next.BuiltFrom allowed := by
  have opened := built.opened
  rw [Builder.pop] at taken
  split at taken
  · cases taken
  · rename_i group rest shape
    cases taken
    rw [shape] at opened
    obtain ⟨⟨closing, outer⟩, others⟩ := List.forall_mem_cons.mp opened
    exact close ⟨others, outer⟩ closing built.current.node

/-- What an allowed lexeme asks for, it can build. -/
theorem take (built : builder.BuiltFrom allowed) {start stop : Nat} {lexeme : Lexeme}
    (asked : allowed lexeme = true) (taken : builder.take start stop lexeme = .ok next) :
    next.BuiltFrom allowed := by
  cases lexeme with
  | blank =>
      cases taken
      exact built
  | literal code =>
      cases taken
      exact built.add (.set _) .ordinary
  | any =>
      cases taken
      exact built.add (.set _) .ordinary
  | set negated items =>
      cases taken
      exact built.add (.set _) .ordinary
  | anchor kind =>
      cases taken
      exact built.add (.anchor _ asked) .anchor
  | reference group =>
      rw [Builder.take] at taken
      split at taken
      · cases taken
      · exact built.addReference (fun fold => .numbered fold asked) taken
  | namedReference name =>
      rw [Builder.take] at taken
      split at taken
      · cases taken
      · exact built.addReference (fun fold => .named fold _ asked) taken
  | quantifier least most manner => exact built.quantify taken
  | opening kind =>
      cases kind with
      | plain =>
          cases taken
          exact built.push .plain start
      | capture name? => exact built.openCapture taken
      | ahead negated =>
          cases taken
          exact built.push (.ahead asked) start
      | behind negated =>
          cases taken
          exact built.openBehind asked start
  | closing => exact built.pop taken
  | alternation =>
      cases taken
      exact ⟨built.opened, built.current.divide⟩
  | flags more =>
      rw [Builder.take] at taken
      split at taken
      · cases taken
        exact ⟨built.opened, built.current⟩
      · cases taken

theorem takeAll (built : builder.BuiltFrom allowed) {placed : List Placed}
    (asked : placed.all (Placed.isOf allowed) = true) (taken : builder.takeAll placed = .ok next) :
    next.BuiltFrom allowed := by
  induction placed generalizing builder with
  | nil =>
      cases taken
      exact built
  | cons first rest ih =>
      rw [List.all_cons, Bool.and_eq_true, Placed.isOf] at asked
      obtain ⟨here, later⟩ := asked
      rw [Builder.takeAll] at taken
      split at taken
      · cases taken
      · rename_i lexeme outcome
        rw [outcome] at here
        split at taken
        · cases taken
        · rename_i middle first
          exact ih (built.take here first) later taken

end Builder.BuiltFrom

/-- A pattern of allowed lexemes is read as a node that they can build. -/
theorem builtFrom_of_compile {pattern : Text} {flags : Flags} {expression : Regex}
    (written : writtenIn allowed flags pattern = true)
    (read : compile pattern flags = .ok expression) : expression.node.BuiltFrom allowed := by
  rw [compile, readPattern] at read
  split at read
  · cases read
  · rename_i builder taken
    have built := (Builder.BuiltFrom.start flags).takeAll written taken
    rw [Builder.finish] at read
    split at read
    · cases read
    · split at read
      · cases read
      · cases read
        exact built.current.node

end Regex

end Lexwork
