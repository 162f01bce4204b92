import VarLint.Cache
import VarLint.Clock
import VarLint.CommandLine.Command
import VarLint.CommandLine.Flag
import VarLint.CommandLine.Record
import VarLint.CommandLine.Run
import VarLint.CommandLine.Template
import VarLint.Config.File
import VarLint.Config.Layer
import VarLint.Config.Load
import VarLint.Config.Settings
import VarLint.Config.Value
import VarLint.Decimal
import VarLint.Disk.Basic
import VarLint.Findings
import VarLint.Glob.Expand
import VarLint.Glob.Pattern
import VarLint.Glob.Segment
import VarLint.Ignore
import VarLint.Lint
import VarLint.Log
import VarLint.Main
import VarLint.Numeral
import VarLint.Path
import VarLint.Pattern
import VarLint.Proofs.Accounting
import VarLint.Proofs.CacheCoherence
import VarLint.Proofs.DeclarationPositions
import VarLint.Proofs.ExitDecision
import VarLint.Proofs.LineLayout
import VarLint.Proofs.StatementGrammar
import VarLint.PropertyCategory
import VarLint.Regex.Basic
import VarLint.Regex.Error
import VarLint.Regex.Image
import VarLint.Regex.Leftmost
import VarLint.Regex.Parse
import VarLint.Regex.Property
import VarLint.Report.Basic
import VarLint.Report.Format
import VarLint.Report.IssueList
import VarLint.Report.Json
import VarLint.Report.Markdown
import VarLint.Report.Statistics
import VarLint.Report.Style
import VarLint.Rule
import VarLint.Scan
import VarLint.Stylesheet.Declaration
import VarLint.Stylesheet.Lexer
import VarLint.Stylesheet.LineComment
import VarLint.Stylesheet.Token
import VarLint.Tally
import VarLint.Text.Blank
import VarLint.Text.Bytes
import VarLint.Text.Case
import VarLint.Text.Category
import VarLint.Text.Quoted
import VarLint.Text.Rune
import VarLint.Text.Script
import VarLint.Text.Span
import VarLint.Value.Shorthand
import VarLint.Value.Token
import VarLint.Value.Verdict
import VarLint.Watch
import VarLint.Yaml.Cursor
import VarLint.Yaml.Document
import VarLint.Yaml.Scalar
import VarLint.Yaml.Token
import VarLint.Proofs.CommentText
import VarLint.Proofs.MergedFindings
import VarLint.Proofs.Schedules
import VarLint.Proofs.TokenLocality
import VarLint.Proofs.Concatenation
import VarLint.Proofs.ScanUnion
import VarLint.Proofs.ReportAgreement
import VarLint.Proofs.DiskPlaces
import VarLint.Proofs.WatchedChanges
import VarLint.Proofs.WatchFreshness
import VarLint.Proofs.WatchProgram
import VarLint.Proofs.Decoding
import VarLint.Proofs.Fields
import VarLint.Proofs.PreferredMatch
import VarLint.Proofs.VariableTokens
import VarLint.Proofs.BorderShorthand
import VarLint.Proofs.BorderReferences
import VarLint.Proofs.BackgroundShorthand
import VarLint.Proofs.LoadedNames
import VarLint.Proofs.SettingLayers
import VarLint.Proofs.SettingPrecedence
import VarLint.Proofs.IssueLimits
import VarLint.Proofs.QuotedTokens
import VarLint.Proofs.MatchedTexts
import VarLint.Proofs.Seams
import VarLint.Proofs.Renormalization
import VarLint.Proofs.RankedLiterals
import VarLint.Proofs.WiderExceptions
import VarLint.Proofs.TableRows
import VarLint.Proofs.CaretPlaces
import VarLint.Proofs.BlankedComments
import VarLint.Proofs.LoadHistory
import VarLint.Proofs.RecentLoads
import VarLint.Proofs.FailedLoads
import VarLint.Proofs.InlineFlags
import VarLint.Proofs.PatternLiterals
import VarLint.Proofs.VariableGrammar
import VarLint.Proofs.ImportantFlag
