import Lexwork.Place
import Lexwork.Regex.Node

/-!
# Matching

A node is matched by trying its possibilities in order of preference and
handing each resulting state to a continuation, which stands for everything
that has still to match.  The first possibility that the continuation accepts
is the answer, so a later failure comes back for the next possibility.

A loop first runs its required rounds.  Each further round either consumes a
character or is the last one, so the characters of the remaining text bound the
number of rounds.
-/

namespace Lexwork

namespace Regex

/-- A state of matching: the place reached and the texts of the groups left so far. -/
structure State where
  place : Place
  groups : List (Nat × Text)
  deriving DecidableEq, Repr

/-- Everything that has still to match. -/
abbrev Continuation := State → Option State

/-- A way of matching: the first result that the continuation accepts. -/
abbrev Step := State → Continuation → Option State

namespace State

def initial (place : Place) : State :=
  ⟨place, []⟩

def advance (state : State) (n : Nat) : State :=
  { state with place := state.place.advance n }

/-- The state after a group that was entered in an earlier state. -/
def leaveGroup (state entered : State) (group : Nat) : State :=
  { state with
    groups := (group, entered.place.rest.take (state.place.offset - entered.place.offset)) ::
      state.groups }

end State

/-- Whether two characters are equal, or equal up to the case of ASCII letters. -/
def sameChar (fold : Bool) (a b : Char) : Bool :=
  if fold then a.toLower == b.toLower else a == b

def startsWith (fold : Bool) : Text → Text → Bool
  | _, [] => true
  | [], _ :: _ => false
  | c :: rest, d :: piece => sameChar fold c d && startsWith fold rest piece

def atWord : Text → Bool
  | [] => false
  | c :: _ => Category.word.holds c

def atBoundary (place : Place) : Bool :=
  atWord place.before != atWord place.rest

def Anchor.holds (multiline : Bool) (place : Place) : Anchor → Bool
  | .lineStart => place.before.isEmpty || (multiline && place.before.head? == some '\n')
  | .lineEnd =>
      place.rest.isEmpty || place.rest == ['\n'] ||
        (multiline && place.rest.head? == some '\n')
  | .textStart => place.before.isEmpty
  | .textEnd => place.rest.isEmpty
  | .boundary => !(place.before.isEmpty && place.rest.isEmpty) && atBoundary place
  | .notBoundary => !(place.before.isEmpty && place.rest.isEmpty) && !atBoundary place

/-- Tries to go on and to stop, in the order that the loop prefers. -/
def prefer (reluctant : Bool) (more stop : Unit → Option State) : Option State :=
  if reluctant then (stop ()).orElse more else (more ()).orElse stop

def rounds (step : Step) : Nat → Step
  | 0, state, k => k state
  | n + 1, state, k => step state fun next => rounds step n next k

/--
Any number of further rounds up to a limit.  The text is what remains at the
current place; a round that consumes nothing is the last.
-/
def moreRounds (step : Step) (reluctant : Bool) : Option Nat → Text → Step
  | some 0, _, state, k => k state
  | _, [], state, k =>
      prefer reluctant (fun _ => step state k) fun _ => k state
  | limit, _ :: fuel, state, k =>
      prefer reluctant
        (fun _ => step state fun next =>
          if next.place.offset = state.place.offset then k next
          else moreRounds step reluctant (limit.map (· - 1)) fuel next k)
        fun _ => k state

/-- Matches a node from a state and goes on with the continuation. -/
def Node.run : Node → Step
  | .empty, state, k => k state
  | .set chars, state, k =>
      match state.place.rest with
      | [] => none
      | c :: _ => if chars.accepts c then k (state.advance 1) else none
  | .seq first second, state, k => first.run state fun next => second.run next k
  | .alt first second, state, k => (first.run state k).orElse fun _ => second.run state k
  | .capture group body, state, k =>
      body.run state fun next => k (next.leaveGroup state group)
  | .reference fold group, state, k =>
      match state.groups.lookup group with
      | none => none
      | some piece =>
          if startsWith fold state.place.rest piece then k (state.advance piece.length) else none
  | .loop reluctant least most body, state, k =>
      rounds (fun s j => body.run s j) least state fun next =>
        moreRounds (fun s j => body.run s j) reluctant (most.map (· - least)) next.place.rest next k
  | .ahead negated body, state, k =>
      match body.run state some with
      | some next => if negated then none else k { state with groups := next.groups }
      | none => if negated then k state else none
  | .behind negated width body, state, k =>
      match (state.place.back? width).bind fun place => body.run { state with place } some with
      | some next => if negated then none else k { state with groups := next.groups }
      | none => if negated then k state else none
  | .anchor multiline kind, state, k =>
      if kind.holds multiline state.place then k state else none

def Node.matchAt (node : Node) (place : Place) : Option Text :=
  (node.run (.initial place) some).map fun final =>
    place.rest.take (final.place.offset - place.offset)

end Regex

end Lexwork
