import Lexwork.Value.Basic

/-!
# Tokens

A token has a content, the name of the pattern that made it, and the position
of its first character.
-/

namespace Lexwork

structure Token where
  content : Value
  type : Text
  line : Nat
  character : Nat

def Token.toValue (token : Token) : Value :=
  .token token.content (.str token.type) (.int token.line) (.int token.character)

end Lexwork
