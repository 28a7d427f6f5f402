import Lexwork.Proofs.Regex.Building
import Lexwork.Proofs.Regex.Progress

/-!
# Plain patterns

A pattern is plain if it is written without anchors, references and look-around.  Nothing
of the kind is built then, so it is read as a plain node, whatever the options.
-/

namespace Lexwork

namespace Regex

/-- A lexeme that asks for characters, or says how often and in which order they come. -/
def Lexeme.isPlain : Lexeme → Bool
  | .anchor _ => false
  | .reference _ => false
  | .namedReference _ => false
  | .opening (.ahead _) => false
  | .opening (.behind _) => false
  | _ => true

/-- Whether a pattern, read with the given options, consists of plain lexemes. -/
def isPlainPattern (flags : Flags) (pattern : Text) : Bool :=
  writtenIn Lexeme.isPlain flags pattern

theorem Node.BuiltFrom.isPlain {node : Node} (built : node.BuiltFrom Lexeme.isPlain) :
    node.IsPlain := by
  induction built with
  | empty => exact .empty
  | set chars => exact .set chars
  | seq _ _ ihFirst ihSecond => exact .seq ihFirst ihSecond
  | alt _ _ ihFirst ihSecond => exact .alt ihFirst ihSecond
  | capture group _ ih => exact .capture group ih
  | loop reluctant least most _ ih => exact .loop reluctant least most ih
  | numbered fold asked => cases asked
  | named fold group asked => cases asked
  | ahead asked _ _ => cases asked
  | behind width asked _ _ => cases asked
  | anchor multiline asked => cases asked

theorem isPlain_of_compile {pattern : Text} {flags : Flags} {expression : Regex}
    (simple : isPlainPattern flags pattern = true)
    (read : compile pattern flags = .ok expression) : expression.node.IsPlain :=
  (builtFrom_of_compile simple read).isPlain

end Regex

end Lexwork
