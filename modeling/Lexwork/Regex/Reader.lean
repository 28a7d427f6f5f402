import Lexwork.Regex.Lexeme

/-!
# Reading a pattern

The lexemes of a pattern build its tree from left to right.  A stack holds the
groups that are still open, each with its finished branches and the items of
the branch being read.  The first fault in reading order is the one reported;
only the width of a look-behind is judged after everything else was read.  Which
part of the syntax is read is told where the lexemes are.
-/

namespace Lexwork

namespace Regex

/-- What a quantifier may do with an item: repeat it, or refuse it. -/
inductive Role
  | ordinary
  | anchor
  | repeated
  deriving DecidableEq, Repr

structure Item where
  node : Node
  role : Role
  deriving DecidableEq, Repr

/-- What to do with the body of a group when it is closed. -/
inductive Closing
  | plain
  | capture (group : Nat)
  | ahead (negated : Bool)
  | behind (negated : Bool) (outerFloor : Option Nat)
  deriving DecidableEq, Repr

/-- The branches of a group: the finished ones and the items of the last, newest first. -/
structure Branches where
  finished : List Node
  items : List Item
  deriving DecidableEq, Repr

namespace Branches

def empty : Branches :=
  ⟨[], []⟩

def add (branches : Branches) (node : Node) (role : Role) : Branches :=
  { branches with items := ⟨node, role⟩ :: branches.items }

def lastBranch (branches : Branches) : Node :=
  Node.concat (branches.items.reverse.map (·.node))

def divide (branches : Branches) : Branches :=
  ⟨branches.lastBranch :: branches.finished, []⟩

def node (branches : Branches) : Node :=
  match (branches.lastBranch :: branches.finished).reverse with
  | first :: rest => Node.either first rest
  | [] => .empty

def isEmpty (branches : Branches) : Bool :=
  branches.finished.isEmpty && branches.items.isEmpty

end Branches

/-- A group that is still open, with the branches around it. -/
structure OpenGroup where
  start : Nat
  closing : Closing
  outer : Branches
  deriving DecidableEq, Repr

/--
The state of reading.  `widths` holds the width of each group in order of
opening, and none while it is open; groups from `floor` on belong to the
look-behind being read.
-/
structure Builder where
  flags : Flags
  opened : List OpenGroup := []
  current : Branches := .empty
  widths : List (Option Width) := []
  names : List (Text × Nat) := []
  floor : Option Nat := none
  variableLookBehind : Bool := false
  deriving DecidableEq, Repr

namespace Builder

def refuse {α : Type} (cause : Cause) (offset : Nat) : Except Refusal α :=
  .error (.malformed ⟨cause, some offset⟩)

def groupWidth (builder : Builder) (group : Nat) : Width :=
  ((builder.widths[group - 1]?).join).getD (.exact 0)

def add (builder : Builder) (node : Node) (role : Role) : Builder :=
  { builder with current := builder.current.add node role }

def addSet (builder : Builder) (negated : Bool) (items : List SetItem) : Builder :=
  builder.add (.set ⟨negated, builder.flags.fold, items⟩) .ordinary

/-- Adds a reference to a closed group; an open one is reported at `start`. -/
def addReference (builder : Builder) (group start stop : Nat) : Except Refusal Builder :=
  match (builder.widths[group - 1]?).join with
  | none => refuse .openGroup start
  | some _ =>
      if builder.floor.any (· ≤ group) then refuse .sameLookBehind stop
      else .ok (builder.add (.reference builder.flags.fold group) .ordinary)

/-- Repeats the last item, if it can be repeated. -/
def quantify (builder : Builder) (least : Nat) (most : Option Nat) (manner : Manner)
    (start : Nat) : Except Refusal Builder :=
  match builder.current.items with
  | [] => refuse .nothingToRepeat start
  | ⟨_, .anchor⟩ :: _ => refuse .nothingToRepeat start
  | ⟨_, .repeated⟩ :: _ => refuse .multipleRepeat start
  | ⟨node, .ordinary⟩ :: rest =>
      if manner = .possessive then .error (.unsupported .possessiveQuantifier)
      else
        .ok { builder with
          current := { builder.current with
            items := ⟨.loop (manner == .reluctant) least most node, .repeated⟩ :: rest } }

def push (builder : Builder) (start : Nat) (closing : Closing) : Builder :=
  { builder with
    opened := ⟨start, closing, builder.current⟩ :: builder.opened
    current := .empty }

def openCapture (builder : Builder) (name? : Option Text) (start nameStart : Nat) :
    Except Refusal Builder :=
  let group := builder.widths.length + 1
  let opened :=
    { builder.push start (.capture group) with widths := builder.widths ++ [none] }
  match name? with
  | none => .ok opened
  | some name =>
      match builder.names.lookup name with
      | some earlier => refuse (.redefinedName name group earlier) nameStart
      | none => .ok { opened with names := (name, group) :: builder.names }

def openBehind (builder : Builder) (negated : Bool) (start : Nat) : Builder :=
  { builder.push start (.behind negated builder.floor) with
    floor := builder.floor.orElse fun _ => some (builder.widths.length + 1) }

def close (builder : Builder) (closing : Closing) (body : Node) : Builder :=
  let width := body.width builder.groupWidth
  match closing with
  | .plain => builder.add body .ordinary
  | .capture group =>
      { builder.add (.capture group body) .ordinary with
        widths := builder.widths.set (group - 1) (some width) }
  | .ahead negated => builder.add (.ahead negated body) .ordinary
  | .behind negated outerFloor =>
      let size := width.fixed?.filter (· < repetitionLimit)
      { builder.add (.behind negated (size.getD 0) body) .ordinary with
        floor := outerFloor
        variableLookBehind := builder.variableLookBehind || size.isNone }

def pop (builder : Builder) (start : Nat) : Except Refusal Builder :=
  match builder.opened with
  | [] => refuse .unbalancedParenthesis start
  | group :: rest =>
      .ok (close { builder with opened := rest, current := group.outer }
        group.closing builder.current.node)

/-- Takes in one lexeme that starts and stops at the given offsets. -/
def take (builder : Builder) (start stop : Nat) : Lexeme → Except Refusal Builder
  | .blank => .ok builder
  | .literal code => .ok (builder.addSet false [.single code])
  | .any => .ok (builder.addSet true (if builder.flags.dotAll then [] else [.single 10]))
  | .set negated items => .ok (builder.addSet negated items)
  | .anchor kind => .ok (builder.add (.anchor builder.flags.multiline kind) .anchor)
  | .reference group =>
      if builder.widths.length < group then refuse (.invalidReference group) (start + 1)
      else builder.addReference group start stop
  | .namedReference name =>
      match builder.names.lookup name with
      | none => refuse (.unknownName name) (start + 4)
      | some group => builder.addReference group (start + 4) stop
  | .quantifier least most manner => builder.quantify least most manner start
  | .opening .plain => .ok (builder.push start .plain)
  | .opening (.capture name?) => builder.openCapture name? start (start + 4)
  | .opening (.ahead negated) => .ok (builder.push start (.ahead negated))
  | .opening (.behind negated) => .ok (builder.openBehind negated start)
  | .closing => builder.pop start
  | .alternation => .ok { builder with current := builder.current.divide }
  | .flags more =>
      if builder.opened.isEmpty && builder.current.isEmpty then
        .ok { builder with flags := builder.flags.union more }
      else
        refuse .lateFlags start

/-- Takes in lexemes one after the other, up to the first fault. -/
def takeAll (builder : Builder) : List Placed → Except Refusal Builder
  | [] => .ok builder
  | placed :: rest =>
      match placed.outcome with
      | .error refusal => .error refusal
      | .ok lexeme =>
          match builder.take placed.start placed.stop lexeme with
          | .error refusal => .error refusal
          | .ok next => next.takeAll rest

/-- The tree that was built, unless a group is open or a look-behind has no fixed width. -/
def finish (builder : Builder) : Except Refusal Node :=
  match builder.opened with
  | group :: _ => refuse .unterminatedGroup group.start
  | [] =>
      if builder.variableLookBehind then .error (.malformed ⟨.variableLookBehind, none⟩)
      else .ok builder.current.node

end Builder

def readPattern (flags : Flags) (pattern : Text) : Except Refusal Node :=
  match Builder.takeAll { flags }
      (lexemes (Glyph.dangling pattern) flags.verbose 0 0 (Glyph.ofText pattern)) with
  | .error refusal => .error refusal
  | .ok builder => builder.finish

end Regex

structure Regex where
  pattern : Text
  flags : Regex.Flags
  node : Regex.Node
  deriving DecidableEq, Repr

namespace Regex

/-- Reads a pattern into a regular expression. -/
def compile (pattern : Text) (flags : Flags) : Except Refusal Regex :=
  (readPattern flags pattern).map fun node => ⟨pattern, flags, node⟩

/-- The characters that stand for themselves only after a backslash. -/
def specialChars : Text :=
  "()[]\x7b\x7d?*+-|^$\\.&~# \t\n\r\x0b\x0c"

/-- A pattern that matches exactly the given text. -/
def escape (text : Text) : Text :=
  text.flatMap fun c => if specialChars.contains c then ['\\', c] else [c]

end Regex

end Lexwork
