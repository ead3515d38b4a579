import Frontend.Source.Cursor
import Frontend.Source.File
import Frontend.Source.Span
import Frontend.Text.Alphabetic
import Frontend.Text.Blank
import Frontend.Text.Width
import Frontend.Text.WordClass
import Frontend.Text.Quoted
import Frontend.Text.Utf8
import Frontend.Token.Basic
import Frontend.Token.CharacterName
import Frontend.Token.Escape
import Frontend.Token.Number
import Frontend.Token.Literal
import Frontend.Token.Fault
import Frontend.Token.Lexer
import Frontend.Fixity
import Frontend.Tree.Expression
import Frontend.Tree.Module
import Frontend.Grammar.Fault
import Frontend.Grammar.Stream
import Frontend.Grammar.Parser
import Frontend.Grammar.Expression
import Frontend.Grammar.Module
import Frontend.Paint.Painter
import Frontend.Tree.Display
import Frontend.Tree.Outline
import Frontend.Diagnostic.Report
import Frontend.Check
import Frontend.Difference.Changes
import Frontend.Command.Run
import Frontend.Main
import Frontend.Proofs.Source.Order
import Frontend.Proofs.Token.Kind
import Frontend.Proofs.Token.Scanning
import Frontend.Proofs.Token.Moves
import Frontend.Proofs.Token.Spelling
import Frontend.Proofs.Token.Tiling
import Frontend.Proofs.Token.Brackets
import Frontend.Proofs.Token.Interpolation
import Frontend.Proofs.Token.Indentation
import Frontend.Proofs.Token.Fault
import Frontend.Proofs.Token.LineEnd
import Frontend.Proofs.Token.Displacement
import Frontend.Proofs.Token.Rescanning
import Frontend.Proofs.Token.Legible
import Frontend.Proofs.Token.Matching
import Frontend.Proofs.Token.Arrangement
import Frontend.Proofs.Tree.Spelling
import Frontend.Proofs.Tree.Nodes
import Frontend.Proofs.Tree.Occupation
import Frontend.Proofs.Tree.Operators
import Frontend.Proofs.Grammar.Outcome
import Frontend.Proofs.Grammar.Reading
import Frontend.Proofs.Grammar.Stretch
import Frontend.Proofs.Grammar.ExpressionReading
import Frontend.Proofs.Grammar.Yield
import Frontend.Proofs.Grammar.Finishing
import Frontend.Proofs.Grammar.Precedence
import Frontend.Proofs.Grammar.ModuleReading
import Frontend.Proofs.Grammar.Interpolation
import Frontend.Proofs.Grammar.Acceptance
import Frontend.Proofs.Grammar.Chain
import Frontend.Proofs.Grammar.Derivation
import Frontend.Proofs.Grammar.Language
import Frontend.Proofs.Grammar.ModuleGrammar
import Frontend.Proofs.Grammar.ModuleLanguage
import Frontend.Proofs.Grammar.Agreement
import Frontend.Proofs.Grammar.Continuation
import Frontend.Proofs.Grammar.Foresight
import Frontend.Proofs.Grammar.Lookahead
import Frontend.Proofs.Grammar.Shape
import Frontend.Proofs.Grammar.NonAssociative
import Frontend.Proofs.Grammar.Construction
import Frontend.Proofs.Grammar.NodeShape
import Frontend.Proofs.Grammar.Occupation
import Frontend.Proofs.Grammar.ModuleFinishing
import Frontend.Proofs.Grammar.ModuleOccupation
import Frontend.Proofs.Grammar.Placement
import Frontend.Proofs.Grammar.Balance
import Frontend.Proofs.Tree.Display
import Frontend.Proofs.Token.Escape
import Frontend.Proofs.Token.Unescaping
import Frontend.Proofs.Token.Word
import Frontend.Proofs.Token.Number
import Frontend.Proofs.Token.LineFeed
import Frontend.Proofs.Token.Display
import Frontend.Proofs.Grammar.Rereading
import Frontend.Proofs.Grammar.Coincidence
import Frontend.Proofs.Grammar.RelativePrecedence
import Frontend.Proofs.Token.Pieces
import Frontend.Proofs.Grammar.Sharing
import Frontend.Proofs.Grammar.Bracketing
import Frontend.Proofs.Diagnostic.Batch
import Frontend.Proofs.Check.Fault
import Frontend.Proofs.Check.Warning
import Frontend.Proofs.Source.Line
import Frontend.Proofs.Paint.Plain
import Frontend.Proofs.Diagnostic.Snippet
import Frontend.Proofs.Check.Highlight
import Frontend.Proofs.Command.Run
import Frontend.Proofs.Paint.Nesting
import Frontend.Proofs.Paint.Terminal
import Frontend.Proofs.Difference.Changes
import Frontend.Proofs.Difference.Lines
import Frontend.Proofs.Diagnostic.Alignment
import Frontend.Proofs.Text.Form
import Frontend.Proofs.Tree.Outline
import Frontend.Proofs.Tree.ModuleOutline
import Frontend.Proofs.Grammar.Names
import Frontend.Proofs.Grammar.Outline
import Frontend.Proofs.Grammar.Optional
import Frontend.Proofs.Grammar.Calls
import Frontend.Proofs.Grammar.Halting
import Frontend.Proofs.Grammar.Stopping
