import Lexwork.Regex.Fault
import Lexwork.Value.Display

/-!
# Faults

Everything that can go wrong, as causes.  One function gives each cause its
words; nothing else in the library writes an error message.

Words that show a value need the text of that value where the failure is raised.
If it has none, the failure to write one is raised in place of the other.
-/

namespace Lexwork

/-- Why a pattern definition is refused. -/
inductive DefinitionFault
  | noName
  | noMatcher
  | twoMatchers
  | notMatcher (kind : Text)
  | ignoreNotBool
  | interpretNotFunction
  | patternNotRegex
  | consumeNotFunction
  | badPattern (pattern : Text) (fault : Regex.Fault)
  | unsupportedPattern (construct : Regex.Construct)
  | notDefinition (kind : Text)

/-- Why a text is not cut into tokens, apart from text that no pattern matches. -/
inductive LexingFault
  | noContent
  | noPatterns
  | notResult (pattern returned : Text)
  | notPrefix (pattern : Text) (line character : Nat) (returned : Text)

/-- Where no pattern matches, with a preview of the text there. -/
structure Unmatched where
  preview : Text
  line : Int
  character : Int

/-- Why tokens or operands do not form the expected structure. -/
inductive ParsingFault
  | noTokens
  | notSequence
  | nothingToPeek
  | nothingToTake
  | missingOperand (symbol : Text)
  | emptyExpression
  | severalOperands

/--
A token, or the end, found where something else was expected.  The position and
the length of the token's text are kept for pointing at it.
-/
structure Unexpected where
  expected : Value
  found : Value
  token : Value
  line : Value
  character : Value
  length : Nat
  message : Value

inductive BadValue
  | languageName
  | debugFlag
  | number (fault : NumberFault)
  | tooLongToWrite
  | raised (message : Text)

inductive Fault
  | definition (fault : DefinitionFault)
  | lexing (fault : LexingFault)
  | unmatched (place : Unmatched)
  | parsing (fault : ParsingFault)
  | unexpected (found : Unexpected)
  | badValue (fault : BadValue)
  | unknownKey (key : Value)
  | divisionByZero
  | tooManyRepetitions
  | typeMismatch
  | missingField
  | outOfRange
  | frozenField (field : Text)
  | raised (message : Text)

def DefinitionFault.message : DefinitionFault → Text
  | .noName => "Token types must have a 'name' property"
  | .noMatcher => "Token types must have a 'pattern' property or a 'consume' function"
  | .twoMatchers =>
      "Token types cannot have both a 'pattern' property and a 'consume' function"
  | .notMatcher kind =>
      "Token types 'matcher' property must be a RegexMatcher or ConsumerMatcher, got " ++ kind
  | .ignoreNotBool => "Token types 'ignore' property must be a bool"
  | .interpretNotFunction => "Token types 'interpret' property must be a function"
  | .patternNotRegex =>
      "Token types 'pattern' property must be a string or compiled regular expression"
  | .consumeNotFunction => "Token types 'consume' property must be a function"
  | .badPattern pattern fault =>
      "Token types 'pattern' property is not a valid regular expression: " ++
        fault.message pattern
  | .unsupportedPattern construct =>
      "Token types 'pattern' property has " ++ construct.message ++ ", which are not supported"
  | .notDefinition kind => "Expected a PatternDefinition, got " ++ kind

def LexingFault.message : LexingFault → Text
  | .noContent => "No content provided"
  | .noPatterns => "No token types defined"
  | .notResult pattern returned =>
      "The consume function for " ++ pattern ++ " returned " ++ returned ++
        " instead of a ConsumeResult"
  | .notPrefix pattern line character returned =>
      "The consume function for " ++ pattern ++
        " failed to return the start of the remaining content at " ++ Text.ofNat line ++
        "." ++ Text.ofNat character ++ " and instead returned " ++ returned

def Unmatched.message (place : Unmatched) : Text :=
  "No viable match in '" ++ place.preview ++ "...' at " ++ Text.ofInt place.line ++ "." ++
    Text.ofInt place.character

def ParsingFault.message : ParsingFault → Text
  | .noTokens => "No tokens provided to the parser"
  | .notSequence => "A non-sequence was provided to the parser instead of a token sequence"
  | .nothingToPeek => "No tokens available"
  | .nothingToTake => "Expected token but found EOF"
  | .missingOperand symbol =>
      "malformed expression: operator " ++ symbol ++ " is missing an operand"
  | .emptyExpression => "malformed expression: empty expression"
  | .severalOperands => "malformed expression: multiple unreduced operands"

/-- The words for a text that is no number; a long integer literal is cut short. -/
def NumberFault.message : NumberFault → Text
  | .notInteger literal =>
      "invalid literal for int() with base 10: " ++ literal.quoted.take 200
  | .tooManyDigits count =>
      "Exceeds the limit (" ++ Text.ofNat integerDigitLimit ++
        " digits) for integer string conversion: value has " ++ Text.ofNat count ++
        " digits; use sys.set_int_max_str_digits() to increase the limit"
  | .notDecimal literal => "could not convert string to float: " ++ literal.quoted

def BadValue.message : BadValue → Text
  | .languageName => "language_name has to be a non-empty string"
  | .debugFlag => "debug has to be either True or False"
  | .number fault => fault.message
  | .tooLongToWrite =>
      "Exceeds the limit (" ++ Text.ofNat integerDigitLimit ++
        " digits) for integer string conversion; use sys.set_int_max_str_digits() to increase" ++
        " the limit"
  | .raised message => message

namespace Fault

/-- The words for a failure, if all they show has a text; some failures have no words. -/
def message? : Fault → Option Text
  | .definition fault => some fault.message
  | .lexing fault => some fault.message
  | .unmatched place => some place.message
  | .parsing fault => some fault.message
  | .unexpected found => found.message.display?
  | .badValue fault => some fault.message
  | .unknownKey key => key.literal?
  | .divisionByZero => some "integer division or modulo by zero"
  | .tooManyRepetitions => some "the repetition number is too large"
  | .typeMismatch => some []
  | .missingField => some []
  | .outOfRange => some []
  | .frozenField field => some ("cannot assign to field '" ++ field ++ "'")
  | .raised message => some message

/-- The failure whose words show a text, or the failure to write one. -/
def showing (text? : Option Text) (failure : Text → Fault) : Fault :=
  match text? with
  | some text => failure text
  | none => .badValue .tooLongToWrite

theorem showing_ne {text? : Option Text} {failure : Text → Fault} {other : Fault}
    (shown : ∀ text, failure text ≠ other) (unwritten : .badValue .tooLongToWrite ≠ other) :
    showing text? failure ≠ other := by
  cases text? with
  | some text => exact shown text
  | none => exact unwritten

theorem eq_showing_iff {text? : Option Text} {failure : Text → Fault} {fault : Fault} :
    fault = showing text? failure ↔
      (∃ text, text? = some text ∧ fault = failure text) ∨
        text? = none ∧ fault = .badValue .tooLongToWrite := by
  cases text? with
  | some text => simp [showing]
  | none => simp [showing]

/-- Whether a parser may recover from a failure. -/
def isParsing : Fault → Bool
  | .parsing _ => true
  | .unexpected _ => true
  | _ => false

end Fault

namespace Unexpected

/-- The message as it is given, or that one thing was expected and another seen. -/
def wording? (expected seen message : Value) : Option Value :=
  match message with
  | .none => do
      return .str ("Expected " ++ (← expected.display?) ++ " but found " ++ (← seen.display?))
  | given => some given

/--
The failure of finding `token` where `expected` was expected.  An absent token
stands for the end, described as `found` if that is given.  Only a token has
the fields that are asked for.
-/
def report (expected token message found : Value) : Except Fault Unexpected :=
  match token with
  | .none =>
      let seen : Value := if found.isNone then .str "EOF" else found
      match wording? expected seen message with
      | some words => .ok ⟨expected, seen, .none, .none, .none, 0, words⟩
      | none => .error (.badValue .tooLongToWrite)
  | .token content type line character =>
      match content.display?, wording? expected type message with
      | some shown, some words =>
          .ok ⟨expected, type, token, line, character, shown.length, words⟩
      | _, _ => .error (.badValue .tooLongToWrite)
  | _ => .error .missingField

def raise (expected token message found : Value) : Fault :=
  match report expected token message found with
  | .ok unexpected => .unexpected unexpected
  | .error fault => fault

end Unexpected

/-- Values with named fields never change: every assignment is refused. -/
def Value.assignField (_record : Value) (field : Text) (_to : Value) : Except Fault Value :=
  .error (.frozenField field)

end Lexwork
