import Lexwork.Text.Blank

/-!
# Regular expressions

A regular expression is a tree.  Options such as ignoring case are resolved
while a pattern is read, so every node carries what it needs to be matched.
Characters of patterns are code points, because a pattern may name code points
that no text can hold.
-/

namespace Lexwork

namespace Regex

structure Flags where
  fold : Bool := false
  multiline : Bool := false
  dotAll : Bool := false
  verbose : Bool := false
  deriving DecidableEq, Repr

namespace Flags

def union (a b : Flags) : Flags :=
  { fold := a.fold || b.fold
    multiline := a.multiline || b.multiline
    dotAll := a.dotAll || b.dotAll
    verbose := a.verbose || b.verbose }

def ofLetter? : Char → Option Flags
  | 'i' => some { fold := true }
  | 'm' => some { multiline := true }
  | 's' => some { dotAll := true }
  | 'x' => some { verbose := true }
  | _ => none

end Flags

/-- The named classes of characters; digits and word characters are those of ASCII. -/
inductive Category
  | digit
  | word
  | space
  deriving DecidableEq, Repr

def Category.holds : Category → Char → Bool
  | .digit, c => c.isDigit
  | .word, c => c.isAlphanum || c == '_'
  | .space, c => isBlank c || inRanges [(0x1C, 0x1F)] c.toNat

/-- A member of a character set. -/
inductive SetItem
  | range (low high : Nat)
  | category (kind : Category) (negated : Bool)
  deriving DecidableEq, Repr

def SetItem.single (code : Nat) : SetItem :=
  .range code code

def SetItem.holds : SetItem → Char → Bool
  | .range low high, c => decide (low ≤ c.toNat) && decide (c.toNat ≤ high)
  | .category kind negated, c => kind.holds c != negated

/-- A set of characters, possibly negated and blind to the case of ASCII letters. -/
structure CharSet where
  negated : Bool
  fold : Bool
  items : List SetItem
  deriving DecidableEq, Repr

namespace CharSet

def covers (set : CharSet) (c : Char) : Bool :=
  set.items.any (·.holds c)

/-- Whether the set accepts a character; a folding set tries both cases of it. -/
def accepts (set : CharSet) (c : Char) : Bool :=
  (set.covers c || (set.fold && (set.covers c.toLower || set.covers c.toUpper))) != set.negated

end CharSet

/-- The places that a pattern can ask for without consuming anything. -/
inductive Anchor
  | lineStart
  | lineEnd
  | textStart
  | textEnd
  | boundary
  | notBoundary
  deriving DecidableEq, Repr

inductive Node
  | empty
  | set (chars : CharSet)
  | seq (first second : Node)
  | alt (first second : Node)
  | capture (group : Nat) (body : Node)
  | reference (fold : Bool) (group : Nat)
  | loop (reluctant : Bool) (least : Nat) (most : Option Nat) (body : Node)
  | ahead (negated : Bool) (body : Node)
  | behind (negated : Bool) (width : Nat) (body : Node)
  | anchor (multiline : Bool) (kind : Anchor)
  deriving DecidableEq, Repr

namespace Node

/-- The nodes of a list matched one after the other. -/
def concat : List Node → Node
  | [] => .empty
  | node :: rest => .seq node (concat rest)

/-- The nodes tried in turn: the first one and then those of the list. -/
def either : Node → List Node → Node
  | node, [] => node
  | node, next :: rest => .alt node (either next rest)

end Node

/-! ## Widths -/

/-- The least and the greatest number of characters matched; no greatest is unbounded. -/
structure Width where
  least : Nat
  most : Option Nat
  deriving DecidableEq, Repr

namespace Width

def exact (n : Nat) : Width :=
  ⟨n, some n⟩

/-- The greatest width of two parts in sequence. -/
def addMost : Option Nat → Option Nat → Option Nat
  | some a, some b => some (a + b)
  | _, _ => none

/-- The greatest width of a repetition; nothing repeated stays nothing. -/
def mulMost : Option Nat → Option Nat → Option Nat
  | some 0, _ => some 0
  | _, some 0 => some 0
  | some a, some b => some (a * b)
  | _, _ => none

def maxMost : Option Nat → Option Nat → Option Nat
  | some a, some b => some (max a b)
  | _, _ => none

/-- The width that is the same for every match, if there is one. -/
def fixed? (width : Width) : Option Nat :=
  if width.most = some width.least then some width.least else none

end Width

/-- The width of a node, given the widths of the groups that it may refer to. -/
def Node.width (groups : Nat → Width) : Node → Width
  | .empty => .exact 0
  | .set _ => .exact 1
  | .seq first second =>
      let a := first.width groups
      let b := second.width groups
      ⟨a.least + b.least, Width.addMost a.most b.most⟩
  | .alt first second =>
      let a := first.width groups
      let b := second.width groups
      ⟨min a.least b.least, Width.maxMost a.most b.most⟩
  | .capture _ body => body.width groups
  | .reference _ group => groups group
  | .loop _ least most body =>
      let a := body.width groups
      ⟨a.least * least, Width.mulMost a.most most⟩
  | .ahead _ _ => .exact 0
  | .behind _ _ _ => .exact 0
  | .anchor _ _ => .exact 0

end Regex

end Lexwork
