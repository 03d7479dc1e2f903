import Primer.Main
import Primer.Proofs.Scope.Agreement
import Primer.Proofs.Run.Growth
import Primer.Proofs.Typing.Inversion
import Primer.Proofs.Typing.Statement
import Primer.Proofs.Tree.Every
import Primer.Proofs.Run.Discipline
import Primer.Proofs.Run.Expression
import Primer.Proofs.Run.Statement
import Primer.Proofs.Run.Returns
import Primer.Proofs.Run.Call
import Primer.Proofs.Typing.Shape
import Primer.Proofs.Run.Program
import Primer.Proofs.Grammar.Ensures
import Primer.Proofs.Grammar.Statement
import Primer.Proofs.Grammar.Proper
import Primer.Proofs.Grammar.Bare
import Primer.Proofs.Grammar.Expression
import Primer.Proofs.Grammar.Phrase
import Primer.Proofs.Grammar.Takes
import Primer.Proofs.Grammar.Reads
import Primer.Proofs.Grammar.Spelling
import Primer.Proofs.Grammar.Soundness
import Primer.Proofs.Grammar.Completeness
import Primer.Proofs.Grammar.Exact
import Primer.Proofs.Typing.Visit
import Primer.Proofs.Run.Moment
import Primer.Proofs.Typing.View
import Primer.Proofs.Run.Invariant
import Primer.Proofs.Run.Turn
import Primer.Proofs.Run.Reached
import Primer.Proofs.Typing.Unique
import Primer.Proofs.Run.Promises
import Primer.Proofs.Run.Resolution
import Primer.Proofs.Run.Endings
import Primer.Proofs.Typing.Nodes
import Primer.Proofs.Run.Session
import Primer.Proofs.Run.Simulation
import Primer.Proofs.Run.Termination
import Primer.Proofs.Run.Isolation
import Primer.Proofs.Run.Later
import Primer.Proofs.Run.Footprint
import Primer.Proofs.Run.Frame
import Primer.Proofs.Run.Loading
import Primer.Proofs.Run.Immutability
import Primer.Proofs.Java.Grouping
import Primer.Proofs.Java.Lexing
import Primer.Proofs.Java.Literal
import Primer.Proofs.Java.Reader
import Primer.Proofs.Java.Reading
import Primer.Proofs.Typing.Genuine
import Primer.Proofs.Token.Layout
import Primer.Proofs.Token.Scan
import Primer.Proofs.Java.Translation
import Primer.Proofs.Java.Quotation
import Primer.Proofs.Typing.Once
import Primer.Proofs.Typing.Annotation
import Primer.Proofs.Run.Scopes
import Primer.Proofs.Text.Line
import Primer.Proofs.Grammar.Rounds
import Primer.Proofs.Grammar.Moves
import Primer.Proofs.Grammar.Progress
import Primer.Proofs.Grammar.Lookahead
import Primer.Proofs.Grammar.Halting
import Primer.Proofs.Diagnostic.Place
import Primer.Proofs.Grammar.Precedence
import Primer.Proofs.Java.Scoping
import Primer.Proofs.Tree.Naming
import Primer.Proofs.Java.Alignment
import Primer.Proofs.Java.Binding
import Primer.Proofs.Typing.Restoring
import Primer.Proofs.Typing.Modular
import Primer.Proofs.Token.Spacing
import Primer.Proofs.Number.Power
import Primer.Proofs.Number.Rounding
import Primer.Proofs.Decimal.Value
import Primer.Proofs.Decimal.Division
import Primer.Proofs.Run.Comparison
import Primer.Proofs.Run.Power
import Primer.Proofs.Text.Column
import Primer.Proofs.Diagnostic.Caret
import Primer.Proofs.Typing.Returned
import Primer.Proofs.Java.Returns
import Primer.Proofs.Text.Place
import Primer.Proofs.Scope.Forest
import Primer.Proofs.Scope.Refinement
import Primer.Proofs.Decimal.Normal
import Primer.Proofs.Number.Numeral
import Primer.Proofs.Decimal.Nearest
import Primer.Proofs.Decimal.Shortest
import Primer.Proofs.Decimal.Reading
import Primer.Proofs.Decimal.Double
import Primer.Proofs.Token.Decoding
import Primer.Proofs.Grammar.Decodes
import Primer.Proofs.Grammar.Refusal
