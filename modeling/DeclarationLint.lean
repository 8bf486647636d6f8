import DeclarationLint.CacheSession
import DeclarationLint.Main
import DeclarationLint.Rule.Scripted
import DeclarationLint.Schema.Printer
import DeclarationLint.Proofs.Directive.Grammar
import DeclarationLint.Proofs.KeyedList
import DeclarationLint.Proofs.Settings.Lines
import DeclarationLint.Proofs.Rule.Walk
import DeclarationLint.Proofs.Rule.Resolution
import DeclarationLint.Proofs.Rule.StatementCount
import DeclarationLint.Proofs.Lint.History
import DeclarationLint.Proofs.Directive.Sequence
import DeclarationLint.Proofs.Rule.Suppression
import DeclarationLint.Proofs.CacheSession.History
import DeclarationLint.Proofs.CacheSession.Answers
import DeclarationLint.Proofs.Lint.Locality
import DeclarationLint.Proofs.Directive.RoundTrip
import DeclarationLint.Proofs.Directive.Appended
import DeclarationLint.Proofs.Directive.CommentStyle
import DeclarationLint.Proofs.Rule.Outcome
import DeclarationLint.Proofs.Lint.Texts
import DeclarationLint.Proofs.Lint.Independence
import DeclarationLint.Proofs.FirstFailure
import DeclarationLint.Proofs.Config.Selection
import DeclarationLint.Rule.Visitors
import DeclarationLint.Proofs.Report.IssueLine
import DeclarationLint.Proofs.Rule.Route
import DeclarationLint.Proofs.Rule.WrittenLimit
import DeclarationLint.Proofs.Config.Overrides
import DeclarationLint.Proofs.Config.OverrideItems
import DeclarationLint.Proofs.FirstOccurrences
import DeclarationLint.Proofs.Summary
import DeclarationLint.Proofs.Report.Directory
import DeclarationLint.Proofs.Report.SummaryText
import DeclarationLint.Proofs.Report.Console.Tables
import DeclarationLint.Proofs.Statement.Rearrangement
import DeclarationLint.Proofs.SyntaxTree.Positions
import DeclarationLint.Proofs.SyntaxTree.Outline
import DeclarationLint.Proofs.SyntaxTree.Comments
import DeclarationLint.Proofs.SyntaxTree.Frames
import DeclarationLint.Proofs.SyntaxTree.Conditionals
import DeclarationLint.Proofs.CommandLine.Outcome
