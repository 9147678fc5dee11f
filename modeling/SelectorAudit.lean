import SelectorAudit.Analysis.Extractor
import SelectorAudit.Analysis.Result
import SelectorAudit.Analysis.Run
import SelectorAudit.Analysis.Session
import SelectorAudit.CommandLine.Arguments
import SelectorAudit.CommandLine.Report
import SelectorAudit.CommandLine.Request
import SelectorAudit.CommandLine.Run
import SelectorAudit.Event.Basic
import SelectorAudit.Event.Bus
import SelectorAudit.Json.Printer
import SelectorAudit.Json.Reader
import SelectorAudit.Json.Value
import SelectorAudit.Main
import SelectorAudit.Markup.ClassExpression
import SelectorAudit.Markup.Component
import SelectorAudit.Markup.Cursor
import SelectorAudit.Markup.Grammar.Basic
import SelectorAudit.Markup.Grammar.Class
import SelectorAudit.Markup.Grammar.Element
import SelectorAudit.Markup.Grammar.Expression
import SelectorAudit.Markup.Grammar.Statement
import SelectorAudit.Markup.Grammar.TypeExpression
import SelectorAudit.Markup.Program
import SelectorAudit.Markup.Template
import SelectorAudit.Markup.Tree
import SelectorAudit.Number.Binary64
import SelectorAudit.Number.Integer
import SelectorAudit.Number.Shortest
import SelectorAudit.Path
import SelectorAudit.Proofs.Analysis.AllOrNothing
import SelectorAudit.Proofs.Analysis.ConcurrentCallers
import SelectorAudit.Proofs.Analysis.ContentSafety
import SelectorAudit.Proofs.Analysis.ExactProject
import SelectorAudit.Proofs.Analysis.FailingFile
import SelectorAudit.Proofs.Analysis.HostImage
import SelectorAudit.Proofs.Analysis.RunLedger
import SelectorAudit.Proofs.Analysis.RunReport
import SelectorAudit.Proofs.Analysis.RunRequests
import SelectorAudit.Proofs.Analysis.SessionHistory
import SelectorAudit.Proofs.CommandLine.ExitCode
import SelectorAudit.Proofs.Event.Dispatch
import SelectorAudit.Proofs.Event.Handles
import SelectorAudit.Proofs.Json.Nesting
import SelectorAudit.Proofs.Markup.ClassEvaluation
import SelectorAudit.Proofs.Markup.CleanNames
import SelectorAudit.Proofs.Markup.CommentedTree
import SelectorAudit.Proofs.Markup.ComponentSigns
import SelectorAudit.Proofs.Markup.ComponentSpelling
import SelectorAudit.Proofs.Markup.ElementModule
import SelectorAudit.Proofs.Markup.Grammar.Expressions
import SelectorAudit.Proofs.Markup.Grammar.Reading
import SelectorAudit.Proofs.Markup.Grammar.Skipping
import SelectorAudit.Proofs.Markup.Grammar.Statements
import SelectorAudit.Proofs.Markup.Grammar.Tokens
import SelectorAudit.Proofs.Markup.TemplateBytes
import SelectorAudit.Proofs.Markup.TemplateNames
import SelectorAudit.Proofs.Markup.TemplateSearch
import SelectorAudit.Proofs.Markup.TemplateSegments
import SelectorAudit.Proofs.Markup.TreeOrder
import SelectorAudit.Proofs.Markup.UnseenChanges
import SelectorAudit.Proofs.Markup.WovenTemplates
import SelectorAudit.Proofs.Reconciliation
import SelectorAudit.Proofs.Report.ErrorHistory
import SelectorAudit.Proofs.Report.FileGroups
import SelectorAudit.Proofs.Report.OrderedTable
import SelectorAudit.Proofs.Report.Publication
import SelectorAudit.Proofs.Report.SinkContents
import SelectorAudit.Proofs.Settings.DialectCoverage
import SelectorAudit.Proofs.Storage.CleanPaths
import SelectorAudit.Proofs.Storage.FlatDirectory
import SelectorAudit.Proofs.Storage.FoundPaths
import SelectorAudit.Proofs.Storage.GlobMatching
import SelectorAudit.Proofs.Storage.NamedDirectory
import SelectorAudit.Proofs.Storage.NormalPaths
import SelectorAudit.Proofs.Storage.RemovedFile
import SelectorAudit.Proofs.Storage.ResolvedPaths
import SelectorAudit.Proofs.Storage.SearchDepth
import SelectorAudit.Proofs.Storage.WantedFiles
import SelectorAudit.Proofs.Storage.WrittenText
import SelectorAudit.Proofs.Stylesheet.BlockForest
import SelectorAudit.Proofs.Stylesheet.BraceBalance
import SelectorAudit.Proofs.Stylesheet.DeclaredNames
import SelectorAudit.Proofs.Stylesheet.EscapeReading
import SelectorAudit.Proofs.Stylesheet.EscapedSplitting
import SelectorAudit.Proofs.Stylesheet.Interpolations
import SelectorAudit.Proofs.Stylesheet.NameSheet
import SelectorAudit.Proofs.Stylesheet.NameSpelling
import SelectorAudit.Proofs.Stylesheet.OpenedRules
import SelectorAudit.Proofs.Stylesheet.PartScan
import SelectorAudit.Proofs.Stylesheet.Passage
import SelectorAudit.Proofs.Stylesheet.PieceReading
import SelectorAudit.Proofs.Stylesheet.PlainSyntax
import SelectorAudit.Proofs.Stylesheet.Relocation
import SelectorAudit.Proofs.Stylesheet.RenderedSheet
import SelectorAudit.Proofs.Stylesheet.RulePositions
import SelectorAudit.Proofs.Stylesheet.RuleScan
import SelectorAudit.Proofs.Stylesheet.ScanTrace
import SelectorAudit.Proofs.Stylesheet.ScannedComments
import SelectorAudit.Proofs.Stylesheet.SelectorDerivation
import SelectorAudit.Proofs.Stylesheet.SelectorExactness
import SelectorAudit.Proofs.Stylesheet.SelectorFaults
import SelectorAudit.Proofs.Stylesheet.SelectorLexing
import SelectorAudit.Proofs.Stylesheet.SelectorParsing
import SelectorAudit.Proofs.Stylesheet.SelectorSplitting
import SelectorAudit.Proofs.Stylesheet.SelectorTree
import SelectorAudit.Proofs.Stylesheet.SheetDivision
import SelectorAudit.Proofs.Stylesheet.SheetSigns
import SelectorAudit.Proofs.Text.Decoding
import SelectorAudit.Proofs.Text.Place
import SelectorAudit.Proofs.Text.Search
import SelectorAudit.Proofs.Text.Words
import SelectorAudit.Reconcile
import SelectorAudit.Report.Diagnostic
import SelectorAudit.Report.ErrorLog
import SelectorAudit.Report.Journal
import SelectorAudit.Report.Sink
import SelectorAudit.Report.Tally
import SelectorAudit.Selector
import SelectorAudit.Settings.Config
import SelectorAudit.Settings.Load
import SelectorAudit.Settings.Options
import SelectorAudit.Storage.Access
import SelectorAudit.Storage.Discovery
import SelectorAudit.Storage.Glob
import SelectorAudit.Storage.Tree
import SelectorAudit.Stylesheet.Escape
import SelectorAudit.Stylesheet.Extract
import SelectorAudit.Stylesheet.Rule
import SelectorAudit.Stylesheet.SelectorList
import SelectorAudit.Stylesheet.SelectorReader
import SelectorAudit.Stylesheet.SelectorToken
import SelectorAudit.Text.Blank
import SelectorAudit.Text.CaseContext
import SelectorAudit.Text.Hex
import SelectorAudit.Text.Identifier
import SelectorAudit.Text.LowerCase
import SelectorAudit.Text.Order
import SelectorAudit.Text.Position
import SelectorAudit.Text.Printable
import SelectorAudit.Text.Quoted
import SelectorAudit.Text.Search
import SelectorAudit.Text.Utf8
import SelectorAudit.Text.Word
