import Lexwork.Pattern.Definition
import Lexwork.Text.Visible
import Lexwork.Token

/-!
# Lexers

A lexer holds definitions in order of priority.  It cuts a text from the left:
at every place the first definition that matches wins, however much a later one
would match.  Each cut makes a token unless its definition is ignored.  Where no
definition matches, the text is refused with a preview of what stands there.

The loop ends because a match consumes at least one character.
-/

namespace Lexwork

/-- Something worth telling that is no failure. -/
inductive Notice
  | emptyMatch (pattern : Text)
  | registered (language pattern : Text) (priority : Nat)
  | tokenized (language : Text) (characters tokens : Nat)
  deriving DecidableEq, Repr

namespace Notice

def isWarning : Notice → Bool
  | .emptyMatch _ => true
  | _ => false

def message : Notice → Text
  | .emptyMatch pattern =>
      "Pattern " ++ pattern ++ " can match the empty string, empty matches are never accepted."
  | .registered language pattern priority =>
      language ++ ": registered pattern " ++ pattern ++ " at priority " ++ Text.ofNat priority
  | .tokenized language characters tokens =>
      language ++ ": tokenized " ++ Text.ofNat characters ++ " characters into " ++
        Text.ofNat tokens ++ " tokens"

end Notice

namespace Lexer

def previewLength : Nat := 15

/-- The first definition that matches at a place, with its match. -/
def firstMatch (place : Place) (tracker : Tracker) :
    List Definition → Except Fault (Option (Definition × Match))
  | [] => .ok none
  | definition :: rest =>
      match definition.matchHere place tracker with
      | .error fault => .error fault
      | .ok (some found) => .ok (some (definition, found))
      | .ok none => firstMatch place tracker rest

/-- The winning match consumes a non-empty start of the rest. -/
theorem firstMatch_eq_some {place : Place} {tracker : Tracker} {definitions : List Definition}
    {definition : Definition} {found : Match}
    (first : firstMatch place tracker definitions = .ok (some (definition, found))) :
    found.consumed ≠ [] ∧ found.consumed <+: place.rest := by
  induction definitions with
  | nil => simp [firstMatch] at first
  | cons head tail ih =>
      simp only [firstMatch] at first
      split at first
      · cases first
      · rename_i matched
        cases first
        exact Definition.matchHere_eq_some matched
      · exact ih first

theorem rest_advance_lt {place : Place} {tracker : Tracker} {definitions : List Definition}
    {definition : Definition} {found : Match}
    (first : firstMatch place tracker definitions = .ok (some (definition, found))) :
    (place.advance found.consumed.length).rest.length < place.rest.length := by
  obtain ⟨nonempty, after, split⟩ := firstMatch_eq_some first
  have positive := List.length_pos_iff.mpr nonempty
  rw [Place.rest_advance, ← split]
  simp
  omega

def unmatchedAt (place : Place) (tracker : Tracker) : Fault :=
  .unmatched ⟨Text.visible (place.rest.take previewLength), tracker.line, tracker.character⟩

/-- The tokens that a match makes: none for an ignored definition. -/
def tokensOf (definition : Definition) (content : Value) (tracker : Tracker) : List Token :=
  if definition.ignore then []
  else [⟨content, definition.name, tracker.line, tracker.character⟩]

/-- Cuts the text from a place on into tokens. -/
def scan (definitions : List Definition) (place : Place) (tracker : Tracker) :
    Except Fault (List Token) :=
  if place.rest = [] then .ok []
  else
    match _first : firstMatch place tracker definitions with
    | .error fault => .error fault
    | .ok none => .error (unmatchedAt place tracker)
    | .ok (some (definition, found)) =>
        match definition.contentOf found with
        | .error fault => .error fault
        | .ok content =>
            match scan definitions (place.advance found.consumed.length)
                (tracker.consume found.consumed) with
            | .error fault => .error fault
            | .ok tokens => .ok (tokensOf definition content tracker ++ tokens)
termination_by place.rest.length
decreasing_by exact rest_advance_lt _first

end Lexer

/-! ## Lexers -/

/-- The definitions in order of priority, and the name of the language they describe. -/
structure Lexer where
  languageName : Text
  patterns : List Definition
  languageName_ne_nil : languageName ≠ []

/-- What a caller may register. -/
inductive Offer
  | proposal (proposal : Proposal)
  | other (kind : Text)

namespace Lexer

def defaultName : Value := "unnamedlanguage"

/-- A lexer without definitions; the name has to be a non-empty text. -/
def create : Value → Except Fault Lexer
  | .str (c :: rest) => .ok ⟨c :: rest, [], List.cons_ne_nil c rest⟩
  | _ => .error (.badValue .languageName)

def rename (lexer : Lexer) (name : Value) : Except Fault Lexer :=
  (create name).map fun fresh => { fresh with patterns := lexer.patterns }

def emptyMatchNotice (definition : Definition) : List Notice :=
  match definition.matcher with
  | .regex expression => if expression.matchesEmpty then [.emptyMatch definition.name] else []
  | .consumer _ => []

def append (lexer : Lexer) (definition : Definition) : Lexer :=
  { lexer with patterns := lexer.patterns ++ [definition] }

/-- Registers what a caller offers, if it is a definition in order. -/
def register (lexer : Lexer) (offer : Offer) : Except Fault (Lexer × List Notice) :=
  match offer with
  | .other kind => .error (.definition (.notDefinition kind))
  | .proposal proposal =>
      proposal.validate.map fun definition =>
        let next := lexer.append definition
        (next, emptyMatchNotice definition ++
          [.registered lexer.languageName definition.name next.patterns.length])

/-- Registers a definition by exactly one of a regular expression and a consumer. -/
def add (lexer : Lexer) (name : Value) (pattern : PatternSource) (consume : Supplied Consumer)
    (ignore : Value) (interpret : Supplied Interpreter) : Except Fault (Lexer × List Notice) :=
  (Proposal.ofEither name pattern consume ignore interpret).bind fun proposal =>
    lexer.register (.proposal proposal)

/-- Cuts a text into tokens; there has to be a text, and a definition. -/
def tokenize (lexer : Lexer) : Value → Except Fault (List Token)
  | .str text =>
      if lexer.patterns.isEmpty then .error (.lexing .noPatterns)
      else scan lexer.patterns (.start text) {}
  | _ => .error (.lexing .noContent)

def tokenizedNotice (lexer : Lexer) (content : Value) (tokens : List Token) : Notice :=
  let size :=
    match content with
    | .str text => text.length
    | _ => 0
  .tokenized lexer.languageName size tokens.length

/-- The definition at a signed index, which counts from the end if it is negative. -/
def pattern? (lexer : Lexer) (index : Int) : Option Definition :=
  if 0 ≤ index then lexer.patterns[index.toNat]?
  else if -(lexer.patterns.length : Int) ≤ index then
    lexer.patterns[(lexer.patterns.length + index).toNat]?
  else none

def matchAt (lexer : Lexer) (index : Int) (text : Text) (offset : Int) (tracker : Tracker) :
    Except Fault (Option Match) :=
  match lexer.pattern? index with
  | some definition => definition.matchAt text offset tracker
  | none => .error .outOfRange

def ofProposals (proposals : List (Except Fault Proposal)) : Except Fault Lexer := do
  let mut lexer ← create defaultName
  for offered in proposals do
    let proposal ← offered
    let (next, _) ← lexer.register (.proposal proposal)
    lexer := next
  return lexer

end Lexer

end Lexwork
