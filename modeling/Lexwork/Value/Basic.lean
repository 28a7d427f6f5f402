import Lexwork.Number.Double

/-!
# Values

A value is whatever a caller hands to the library or gets back from it: the
contents and kinds of tokens, operands and operators, precedences, and what a
caller's own functions return.  Tokens, tree nodes, positions and consume
results are values with named fields.
-/

namespace Lexwork

/-- A dynamically typed value. -/
inductive Value
  | none
  | bool (b : Bool)
  | int (n : Int)
  | float (x : Double)
  | str (text : Text)
  | bytes (text : Text)
  | list (items : List Value)
  | tuple (items : List Value)
  | dict (entries : List (Value × Value))
  | iter (items : List Value)
  | token (content type line character : Value)
  | node (operator left right : Value)
  | position (line character : Value)
  | result (success consumed content : Value)

namespace Value

/-- A string literal may be written where a value is meant. -/
instance : Coe String Value := ⟨fun s => .str s.toList⟩

instance : Inhabited Value := ⟨.none⟩

/-- Whether a value counts as true: zeros and empty collections do not. -/
def truthy : Value → Bool
  | .none => false
  | .bool b => b
  | .int n => n != 0
  | .float x => !x.isZero
  | .str text => !text.isEmpty
  | .bytes text => !text.isEmpty
  | .list items => !items.isEmpty
  | .tuple items => !items.isEmpty
  | .dict entries => !entries.isEmpty
  | .iter _ => true
  | .token .. => true
  | .node .. => true
  | .position .. => true
  | .result .. => true

def kindName : Value → Text
  | .none => "NoneType"
  | .bool _ => "bool"
  | .int _ => "int"
  | .float _ => "float"
  | .str _ => "str"
  | .bytes _ => "bytes"
  | .list _ => "list"
  | .tuple _ => "tuple"
  | .dict _ => "dict"
  | .iter _ => "list_iterator"
  | .token .. => "Token"
  | .node .. => "BinaryNode"
  | .position .. => "Position"
  | .result .. => "ConsumeResult"

def isNone : Value → Bool
  | .none => true
  | _ => false

/-- The symbol of an operator: a token's content, and any other value itself. -/
def symbol : Value → Value
  | .token content _ _ _ => content
  | value => value

/--
The elements that a value yields one after the other, if it yields any: the
characters of a text, the codes of bytes, the items of a sequence, the keys of
a dictionary.
-/
def elements? : Value → Option (List Value)
  | .str text => some (text.map fun c => .str [c])
  | .bytes text => some (text.map fun c => .int c.toNat)
  | .list items => some items
  | .tuple items => some items
  | .iter items => some items
  | .dict entries => some (entries.map (·.1))
  | _ => Option.none

end Value

end Lexwork
