import EnergyAudit.Analysis.Error
import EnergyAudit.Analysis.Language
import EnergyAudit.Analysis.Report
import EnergyAudit.Analysis.Session
import EnergyAudit.Ascending
import EnergyAudit.Command.Analyze
import EnergyAudit.Command.Argument
import EnergyAudit.Command.Init
import EnergyAudit.Command.Line
import EnergyAudit.Command.Outcome
import EnergyAudit.Command.Run
import EnergyAudit.Command.Settings
import EnergyAudit.Command.Suggest
import EnergyAudit.Configuration.Check
import EnergyAudit.Configuration.Reading
import EnergyAudit.Configuration.Settings
import EnergyAudit.Configuration.Template
import EnergyAudit.Decimal.Shortest
import EnergyAudit.Decimal.Text
import EnergyAudit.Files.Access
import EnergyAudit.Files.Fault
import EnergyAudit.Files.Listing
import EnergyAudit.Files.Path
import EnergyAudit.Files.Tree
import EnergyAudit.Function.Record
import EnergyAudit.Grammar.Automaton
import EnergyAudit.Grammar.Confusion
import EnergyAudit.Grammar.Item
import EnergyAudit.Grammar.Letter
import EnergyAudit.Grammar.LexTable
import EnergyAudit.Grammar.Merge
import EnergyAudit.Grammar.ParseTable
import EnergyAudit.Grammar.Pattern
import EnergyAudit.Grammar.Production
import EnergyAudit.Grammar.Rule
import EnergyAudit.Grammar.TokenAutomaton
import EnergyAudit.Grammar.TokenSet
import EnergyAudit.Json.Reader
import EnergyAudit.Json.Value
import EnergyAudit.Log.Filter
import EnergyAudit.Log.Line
import EnergyAudit.Main
import EnergyAudit.Parsing.Build
import EnergyAudit.Parsing.Fragment
import EnergyAudit.Parsing.Parse
import EnergyAudit.Parsing.Recovery
import EnergyAudit.Parsing.Reduction
import EnergyAudit.Parsing.Stack
import EnergyAudit.Parsing.TokenReader
import EnergyAudit.Proofs.Analysis.Baseline
import EnergyAudit.Proofs.Analysis.Hotspots
import EnergyAudit.Proofs.Analysis.Identity
import EnergyAudit.Proofs.Analysis.Suggestion
import EnergyAudit.Proofs.Command.Analyze
import EnergyAudit.Proofs.Configuration.Order
import EnergyAudit.Proofs.Files.ByteName
import EnergyAudit.Proofs.Files.Collection
import EnergyAudit.Proofs.Files.Joining
import EnergyAudit.Proofs.Files.PathOrder
import EnergyAudit.Proofs.Ledger.Operation
import EnergyAudit.Proofs.Ledger.Window
import EnergyAudit.Proofs.Provider.Exchange
import EnergyAudit.Proofs.Python.Completeness
import EnergyAudit.Proofs.Python.Earliest
import EnergyAudit.Proofs.Python.Enclosing
import EnergyAudit.Proofs.Python.FirstFault
import EnergyAudit.Proofs.Python.Indentation
import EnergyAudit.Proofs.Python.LogicalLine
import EnergyAudit.Proofs.Python.Measures
import EnergyAudit.Proofs.Python.Metrics
import EnergyAudit.Proofs.Python.Regular
import EnergyAudit.Proofs.Request.Budget
import EnergyAudit.Proofs.Request.Cancellation
import EnergyAudit.Proofs.Request.Discipline
import EnergyAudit.Proofs.Request.Fallback
import EnergyAudit.Proofs.Request.Happening
import EnergyAudit.Proofs.Request.Passage
import EnergyAudit.Proofs.Request.Pool
import EnergyAudit.Proofs.Request.Success
import EnergyAudit.Proofs.Score.Costlier
import EnergyAudit.Proofs.Score.Places
import EnergyAudit.Proofs.Score.Ranking
import EnergyAudit.Proofs.Score.Restriction
import EnergyAudit.Proofs.Score.Total
import EnergyAudit.Proofs.Sorting
import EnergyAudit.Proofs.Suggestion.Answer
import EnergyAudit.Proofs.Suggestion.Assembly
import EnergyAudit.Proofs.Suggestion.Bare
import EnergyAudit.Proofs.Suggestion.Installation
import EnergyAudit.Proofs.Suggestion.Pattern
import EnergyAudit.Proofs.Suggestion.Prompt
import EnergyAudit.Proofs.Tree.Tour
import EnergyAudit.Proofs.Tree.Walk
import EnergyAudit.Provider.Completion
import EnergyAudit.Provider.Http
import EnergyAudit.Provider.Web
import EnergyAudit.Python.Extraction
import EnergyAudit.Python.Grammar.Expression
import EnergyAudit.Python.Grammar.Statement
import EnergyAudit.Python.Grammar.Token
import EnergyAudit.Python.Layout
import EnergyAudit.Python.Metrics
import EnergyAudit.Python.Source
import EnergyAudit.Python.Violation
import EnergyAudit.Report.Data
import EnergyAudit.Report.FileAnalysis
import EnergyAudit.Report.Page
import EnergyAudit.Score.Breakdown
import EnergyAudit.Score.Energy
import EnergyAudit.Score.Ranking
import EnergyAudit.Score.Reason
import EnergyAudit.Suggestion.Answer
import EnergyAudit.Suggestion.Ledger
import EnergyAudit.Suggestion.Orchestrator
import EnergyAudit.Suggestion.Prompt
import EnergyAudit.Suggestion.Request
import EnergyAudit.Suggestion.Result
import EnergyAudit.Terminal.Style
import EnergyAudit.Text.Basic
import EnergyAudit.Text.Cursor
import EnergyAudit.Text.IdentifierChar
import EnergyAudit.Text.LineIndex
import EnergyAudit.Text.Quoted
import EnergyAudit.Tree.Node
import EnergyAudit.Tree.Walk
import EnergyAudit.Url.Host
import EnergyAudit.Url.Parse
import EnergyAudit.Url.PercentCode
import EnergyAudit.Yaml.Document
import EnergyAudit.Yaml.Meaning
import EnergyAudit.Yaml.Place
import EnergyAudit.Yaml.Scalar
import EnergyAudit.Yaml.Shape
import EnergyAudit.Yaml.Token
import EnergyAudit.Yaml.TokenQueue
