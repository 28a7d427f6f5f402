import Lexwork.Grammar.Calculator
import Lexwork.Grammar.ListLiteral
import Lexwork.Grammar.Program
import Lexwork.Proofs.Regex.Greedy
import Lexwork.Proofs.Regex.Lexemes
import Lexwork.Proofs.Regex.Repetition
import Lexwork.Proofs.Regex.Progress
import Lexwork.Proofs.Regex.Building
import Lexwork.Proofs.Regex.Plain
import Lexwork.Proofs.Regex.Forward
import Lexwork.Proofs.Number.Decimal
import Lexwork.Proofs.Pattern.Standard
import Lexwork.Proofs.Pattern.Number
import Lexwork.Proofs.Pattern.NumberRow
import Lexwork.Proofs.Pattern.Constant
import Lexwork.Proofs.Pattern.Refusal
import Lexwork.Proofs.Pattern.StringLiteral
import Lexwork.Proofs.Pattern.StringWriting
import Lexwork.Proofs.Pattern.EmptyMatch
import Lexwork.Proofs.Pattern.Judgement
import Lexwork.Proofs.Position.Lines
import Lexwork.Proofs.Position.Breaks
import Lexwork.Proofs.Text.Visible
import Lexwork.Proofs.Lexer.Chain
import Lexwork.Proofs.Lexer.Location
import Lexwork.Proofs.Lexer.Lockstep
import Lexwork.Proofs.Lexer.Extension
import Lexwork.Proofs.Lexer.Pieces
import Lexwork.Proofs.Lexer.Restart
import Lexwork.Proofs.Lexer.Replacement
import Lexwork.Proofs.Lexer.Registry
import Lexwork.Proofs.Lexer.Order
import Lexwork.Proofs.Operator.Climbing
import Lexwork.Proofs.Operator.Balance
import Lexwork.Proofs.Operator.Convention
import Lexwork.Proofs.Operator.Conservation
import Lexwork.Proofs.Operator.Postorder
import Lexwork.Proofs.Operator.Resumption
import Lexwork.Proofs.Operator.Counting
import Lexwork.Proofs.Operator.Admission
import Lexwork.Proofs.Cursor.Rest
import Lexwork.Proofs.Cursor.Reading
import Lexwork.Proofs.Cursor.Skipping
import Lexwork.Proofs.Grammar.Sentence
import Lexwork.Proofs.Grammar.Acceptance
import Lexwork.Proofs.Grammar.Confinement
import Lexwork.Proofs.Grammar.Recovery
import Lexwork.Proofs.Grammar.CalculatorLexer
import Lexwork.Proofs.Grammar.BlankInsertion
import Lexwork.Proofs.Grammar.Parentheses
import Lexwork.Proofs.Grammar.Printing
import Lexwork.Proofs.Grammar.Evaluation
import Lexwork.Proofs.Grammar.ListLiteral
