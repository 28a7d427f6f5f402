import Lexwork.Text.Quoted

/-!
# Refused patterns

What can be wrong with the text of a regular expression, and the words for it.
A fault names the offset in the pattern where it was noticed; in a pattern of
several lines it also names the line and the column.

A pattern may also be in order and still be refused, because it asks for
repetitions beyond counting or is made of something that is not read here.
-/

namespace Lexwork

namespace Regex

inductive Cause
  | unterminatedGroup
  | unterminatedComment
  | unterminatedSet
  | unterminatedName (terminator : Char)
  | unbalancedParenthesis
  | nothingToRepeat
  | multipleRepeat
  | leastAboveMost
  | danglingEscape
  | badEscape (escape : Text)
  | incompleteEscape (escape : Text)
  | octalOutOfRange (escape : Text)
  | badRange (low high : Text)
  | missingName
  | badName (name : Text)
  | unknownName (name : Text)
  | redefinedName (name : Text) (group earlier : Nat)
  | invalidReference (group : Nat)
  | openGroup
  | sameLookBehind
  | unknownExtension (extension : Text)
  | unexpectedEnd
  | unknownFlag
  | missingFlagEnd
  | lateFlags
  | variableLookBehind
  deriving DecidableEq, Repr

def Cause.message : Cause → Text
  | .unterminatedGroup => "missing ), unterminated subpattern"
  | .unterminatedComment => "missing ), unterminated comment"
  | .unterminatedSet => "unterminated character set"
  | .unterminatedName terminator => "missing " ++ terminator :: ", unterminated name"
  | .unbalancedParenthesis => "unbalanced parenthesis"
  | .nothingToRepeat => "nothing to repeat"
  | .multipleRepeat => "multiple repeat"
  | .leastAboveMost => "min repeat greater than max repeat"
  | .danglingEscape => "bad escape (end of pattern)"
  | .badEscape escape => "bad escape " ++ escape
  | .incompleteEscape escape => "incomplete escape " ++ escape
  | .octalOutOfRange escape =>
      "octal escape value " ++ escape ++ " outside of range 0-0o377"
  | .badRange low high => "bad character range " ++ low ++ "-" ++ high
  | .missingName => "missing group name"
  | .badName name => "bad character in group name " ++ name.quoted
  | .unknownName name => "unknown group name " ++ name.quoted
  | .redefinedName name group earlier =>
      "redefinition of group name " ++ name.quoted ++ " as group " ++ Text.ofNat group ++
        "; was group " ++ Text.ofNat earlier
  | .invalidReference group => "invalid group reference " ++ Text.ofNat group
  | .openGroup => "cannot refer to an open group"
  | .sameLookBehind => "cannot refer to group defined in the same lookbehind subpattern"
  | .unknownExtension extension => "unknown extension " ++ extension
  | .unexpectedEnd => "unexpected end of pattern"
  | .unknownFlag => "unknown flag"
  | .missingFlagEnd => "missing -, : or )"
  | .lateFlags => "global flags not at the start of the expression"
  | .variableLookBehind => "look-behind requires fixed-width pattern"

/-- A cause with the offset in the pattern where it was noticed, if it has one. -/
structure Fault where
  cause : Cause
  offset? : Option Nat
  deriving DecidableEq, Repr

/-- Why repetitions cannot be counted: there are too many, or their number is too long to read. -/
inductive Excess
  | tooMany
  | tooManyDigits (count : Nat)
  deriving DecidableEq, Repr

/-- What patterns may be made of that is not read here. -/
inductive Construct
  | possessiveQuantifier
  | atomicGroup
  | conditionalGroup
  | scopedFlags
  | modeFlag
  | namedCharacter
  deriving DecidableEq, Repr

def Construct.message : Construct → Text
  | .possessiveQuantifier => "possessive quantifiers"
  | .atomicGroup => "atomic groups"
  | .conditionalGroup => "conditional groups"
  | .scopedFlags => "options for a part of a pattern"
  | .modeFlag => "the options a, L and u"
  | .namedCharacter => "characters by name"

/--
Why a pattern is refused: it is malformed, it asks for repetitions beyond counting, or it is
made of something that is not read here.
-/
inductive Refusal
  | malformed (fault : Fault)
  | uncountable (excess : Excess)
  | unsupported (construct : Construct)
  deriving DecidableEq, Repr

namespace Fault

/-- The column of an offset: how far it is behind the last line feed before it. -/
def column (pattern : Text) (offset : Nat) : Nat :=
  ((pattern.take offset).reverse.takeWhile (· != '\n')).length + 1

def line (pattern : Text) (offset : Nat) : Nat :=
  (pattern.take offset).count '\n' + 1

def message (fault : Fault) (pattern : Text) : Text :=
  match fault.offset? with
  | none => fault.cause.message
  | some offset =>
      fault.cause.message ++ " at position " ++ Text.ofNat offset ++
        (if pattern.contains '\n' then
          " (line " ++ Text.ofNat (line pattern offset) ++ ", column " ++
            Text.ofNat (column pattern offset) ++ ")"
        else
          [])

end Fault

end Regex

end Lexwork
