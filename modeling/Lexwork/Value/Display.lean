import Lexwork.Number.Shortest
import Lexwork.Text.Quoted
import Lexwork.Value.Basic

/-!
# The text of a value

A value has two texts.  The literal form shows it with quotes and brackets, as
one would write it down; the display form shows a text as itself and any other
value by its literal form.  An integer with too many digits has neither, and so
has every value that shows one.
-/

namespace Lexwork

namespace Value

/-- Items between brackets; a lone item of a tuple is followed by a comma. -/
def tupleText : List Text → Text
  | [item] => '(' :: (item ++ ",)")
  | items => '(' :: (List.intercalate ", " items ++ ")")

mutual

/-- The literal form of a value, if it has one. -/
def literal? : Value → Option Text
  | .none => some "None"
  | .bool b => some (if b then "True" else "False")
  | .int n => Text.writeInteger? n
  | .float x => some x.text
  | .str text => some text.quoted
  | .bytes text => some text.quotedBytes
  | .list items => do
      return '[' :: (List.intercalate ", " (← literals? items) ++ "]")
  | .tuple items => do
      return tupleText (← literals? items)
  | .dict entries => do
      return '\x7b' :: (List.intercalate ", " (← entryLiterals? entries) ++ ['\x7d'])
  | .iter _ => some "<list_iterator>"
  | .token content type line character => do
      return "Token(content=" ++ (← content.literal?) ++ ", type=" ++ (← type.literal?) ++
        ", line=" ++ (← line.literal?) ++ ", character=" ++ (← character.literal?) ++ ")"
  | .node operator left right => do
      return "BinaryNode(operator=" ++ (← operator.literal?) ++ ", left=" ++ (← left.literal?) ++
        ", right=" ++ (← right.literal?) ++ ")"
  | .position line character => do
      return "Position(line=" ++ (← line.literal?) ++ ", character=" ++ (← character.literal?) ++
        ")"
  | .result success consumed content => do
      return "ConsumeResult(success=" ++ (← success.literal?) ++ ", consumed=" ++
        (← consumed.literal?) ++ ", content=" ++ (← content.literal?) ++ ")"
termination_by structural value => value

def literals? : List Value → Option (List Text)
  | [] => some []
  | item :: rest => do
      return (← item.literal?) :: (← literals? rest)
termination_by structural items => items

def entryLiterals? : List (Value × Value) → Option (List Text)
  | [] => some []
  | entry :: rest => do
      return (← entryLiteral? entry) :: (← entryLiterals? rest)
termination_by structural entries => entries

def entryLiteral? : Value × Value → Option Text
  | (key, value) => do
      return (← key.literal?) ++ ": " ++ (← value.literal?)
termination_by structural entry => entry

end

/-- The display form of a value, if it has one. -/
def display? : Value → Option Text
  | .str text => some text
  | value => value.literal?

@[simp] theorem display?_str (text : Text) : display? (.str text) = some text :=
  rfl

end Value

end Lexwork
