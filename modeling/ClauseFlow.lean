import ClauseFlow.Build
import ClauseFlow.Builtin
import ClauseFlow.Checker
import ClauseFlow.Clause
import ClauseFlow.Clause.Listing
import ClauseFlow.Clause.NameSupply
import ClauseFlow.Clause.Ordering
import ClauseFlow.Clause.Shape
import ClauseFlow.Clause.Synthesis
import ClauseFlow.Command
import ClauseFlow.Command.Perform
import ClauseFlow.Declaration
import ClauseFlow.Declaration.Print
import ClauseFlow.Diagnostic
import ClauseFlow.Diagnostic.Render
import ClauseFlow.Eval.Builtin
import ClauseFlow.Eval.Dispatch
import ClauseFlow.Eval.Expr
import ClauseFlow.Eval.Interrupt
import ClauseFlow.Expr
import ClauseFlow.Expr.Names
import ClauseFlow.Expr.Print
import ClauseFlow.FileTree
import ClauseFlow.Highlight
import ClauseFlow.Main
import ClauseFlow.Number.Binary64
import ClauseFlow.Number.Numeral
import ClauseFlow.Number.Shortest
import ClauseFlow.Outline
import ClauseFlow.Parse.Cursor
import ClauseFlow.Parse.Expr
import ClauseFlow.Parse.Module
import ClauseFlow.Parse.Pattern
import ClauseFlow.Pattern
import ClauseFlow.Pattern.Matching
import ClauseFlow.Pattern.Names
import ClauseFlow.Pattern.Print
import ClauseFlow.Program
import ClauseFlow.Proofs.Build.Outcome
import ClauseFlow.Proofs.Build.Texts
import ClauseFlow.Proofs.Checker.Calls
import ClauseFlow.Proofs.Checker.Findings
import ClauseFlow.Proofs.Checker.Functions
import ClauseFlow.Proofs.Checker.Permutation
import ClauseFlow.Proofs.Checker.Repetitions
import ClauseFlow.Proofs.Checker.Scopes
import ClauseFlow.Proofs.Checker.Unused
import ClauseFlow.Proofs.Checker.Variables
import ClauseFlow.Proofs.Clause.DispatchOrder
import ClauseFlow.Proofs.Clause.GeneratedNames
import ClauseFlow.Proofs.Clause.Interleaving
import ClauseFlow.Proofs.Clause.Listable
import ClauseFlow.Proofs.Clause.Listing
import ClauseFlow.Proofs.Clause.NameRequests
import ClauseFlow.Proofs.Clause.NameSupply
import ClauseFlow.Proofs.Clause.Ordering
import ClauseFlow.Proofs.Clause.Renaming
import ClauseFlow.Proofs.Clause.ScopeLifeCycle
import ClauseFlow.Proofs.Clause.Unwrapping
import ClauseFlow.Proofs.Command.Formatting
import ClauseFlow.Proofs.Command.Rereading
import ClauseFlow.Proofs.Command.Steps
import ClauseFlow.Proofs.Command.Targets
import ClauseFlow.Proofs.Declaration.Lexemes
import ClauseFlow.Proofs.Declaration.Nesting
import ClauseFlow.Proofs.Declaration.Places
import ClauseFlow.Proofs.Eval.BuiltinResemblance
import ClauseFlow.Proofs.Eval.Coincidence
import ClauseFlow.Proofs.Eval.Delegation
import ClauseFlow.Proofs.Eval.Depth
import ClauseFlow.Proofs.Eval.Ending
import ClauseFlow.Proofs.Eval.GuardFailure
import ClauseFlow.Proofs.Eval.Hygiene
import ClauseFlow.Proofs.Eval.IntegerRounding
import ClauseFlow.Proofs.Eval.Interleaving
import ClauseFlow.Proofs.Eval.Layers
import ClauseFlow.Proofs.Eval.Likeness
import ClauseFlow.Proofs.Eval.MapUpdates
import ClauseFlow.Proofs.Eval.Naming
import ClauseFlow.Proofs.Eval.Passthrough
import ClauseFlow.Proofs.Eval.Piping
import ClauseFlow.Proofs.Eval.Reliance
import ClauseFlow.Proofs.Eval.Selection
import ClauseFlow.Proofs.Eval.SourceOrder
import ClauseFlow.Proofs.Eval.Transparency
import ClauseFlow.Proofs.Eval.Unwrapping
import ClauseFlow.Proofs.Expr.Every
import ClauseFlow.Proofs.Expr.Lambdas
import ClauseFlow.Proofs.Expr.Lexemes
import ClauseFlow.Proofs.Expr.Names
import ClauseFlow.Proofs.Expr.Phrasing
import ClauseFlow.Proofs.Expr.Places
import ClauseFlow.Proofs.Format.Preservation
import ClauseFlow.Proofs.Format.Returns
import ClauseFlow.Proofs.Format.Stability
import ClauseFlow.Proofs.Number.Comparison
import ClauseFlow.Proofs.Number.Integers
import ClauseFlow.Proofs.Number.ReadBack
import ClauseFlow.Proofs.Number.Rounding
import ClauseFlow.Proofs.Number.Zeros
import ClauseFlow.Proofs.Parse.Chunks
import ClauseFlow.Proofs.Parse.Confinement
import ClauseFlow.Proofs.Parse.Declarations
import ClauseFlow.Proofs.Parse.Expressions
import ClauseFlow.Proofs.Parse.Finding
import ClauseFlow.Proofs.Parse.Legible
import ClauseFlow.Proofs.Parse.Nesting
import ClauseFlow.Proofs.Parse.Operators
import ClauseFlow.Proofs.Parse.Parentheses
import ClauseFlow.Proofs.Parse.Patterns
import ClauseFlow.Proofs.Parse.Progress
import ClauseFlow.Proofs.Parse.Reading
import ClauseFlow.Proofs.Parse.Recovery
import ClauseFlow.Proofs.Parse.Single
import ClauseFlow.Proofs.Parse.Written
import ClauseFlow.Proofs.Pattern.Every
import ClauseFlow.Proofs.Pattern.Fitting
import ClauseFlow.Proofs.Pattern.Lexemes
import ClauseFlow.Proofs.Pattern.Parts
import ClauseFlow.Proofs.Pattern.Places
import ClauseFlow.Proofs.Pattern.Relabelling
import ClauseFlow.Proofs.Run.Comparison
import ClauseFlow.Proofs.Run.Rendering
import ClauseFlow.Proofs.Run.Resemblance
import ClauseFlow.Proofs.Run.Safety
import ClauseFlow.Proofs.Shape.Acceptance
import ClauseFlow.Proofs.Shape.Exactness
import ClauseFlow.Proofs.Shape.Guards
import ClauseFlow.Proofs.Shape.Numbering
import ClauseFlow.Proofs.Shape.Patterns
import ClauseFlow.Proofs.Shape.Renaming
import ClauseFlow.Proofs.Shape.Rows
import ClauseFlow.Proofs.Shape.Twins
import ClauseFlow.Proofs.Text.Excerpts
import ClauseFlow.Proofs.Text.LineFeeds
import ClauseFlow.Proofs.Text.Lines
import ClauseFlow.Proofs.Text.Positions
import ClauseFlow.Proofs.Token.Breaks
import ClauseFlow.Proofs.Token.Continuation
import ClauseFlow.Proofs.Token.Ends
import ClauseFlow.Proofs.Token.Fragments
import ClauseFlow.Proofs.Token.Grammar
import ClauseFlow.Proofs.Token.Legible
import ClauseFlow.Proofs.Token.Lines
import ClauseFlow.Proofs.Token.Relayout
import ClauseFlow.Proofs.Token.Returns
import ClauseFlow.Proofs.Token.Scanning
import ClauseFlow.Proofs.Token.Segments
import ClauseFlow.Proofs.Token.Settlement
import ClauseFlow.Proofs.Token.Spelling
import ClauseFlow.Proofs.Token.Steps
import ClauseFlow.Proofs.Value.Closures
import ClauseFlow.Proofs.Value.Equivalence
import ClauseFlow.Proofs.Value.Keys
import ClauseFlow.Proofs.Value.Ledger
import ClauseFlow.Proofs.Value.ReadBack
import ClauseFlow.Proofs.Value.Resemblance
import ClauseFlow.Proofs.Value.Written
import ClauseFlow.Scope
import ClauseFlow.Session
import ClauseFlow.Settings
import ClauseFlow.Settings.Find
import ClauseFlow.Signature
import ClauseFlow.SourceText
import ClauseFlow.Span
import ClauseFlow.SymbolTable
import ClauseFlow.Text.CharClass
import ClauseFlow.Text.CharSet
import ClauseFlow.Text.ColorCode
import ClauseFlow.Text.Lines
import ClauseFlow.Text.Listing
import ClauseFlow.Text.Literal
import ClauseFlow.Text.Quoted
import ClauseFlow.Token
import ClauseFlow.Token.Layout
import ClauseFlow.Token.Piece
import ClauseFlow.Toml
import ClauseFlow.Toml.Read
import ClauseFlow.Value
import ClauseFlow.Value.Arithmetic
import ClauseFlow.Value.Equality
import ClauseFlow.Value.Show
