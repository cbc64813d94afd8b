import LogQuery.Config.Document
import LogQuery.Config.EngineSettings
import LogQuery.Config.EngineSettings.Reader
import LogQuery.Config.LogConfig
import LogQuery.Config.LogConfig.Reader
import LogQuery.Config.Setting
import LogQuery.Config.Source
import LogQuery.Decimal.Shortest
import LogQuery.Decimal.Style
import LogQuery.Event
import LogQuery.Event.Store
import LogQuery.Extraction.FileMatcher
import LogQuery.Extraction.FileParser
import LogQuery.Extraction.Json
import LogQuery.Extraction.Regex
import LogQuery.Failure
import LogQuery.Fields
import LogQuery.Job
import LogQuery.Job.Connection
import LogQuery.Job.Engine
import LogQuery.Job.Histogram
import LogQuery.Job.Registry
import LogQuery.Job.Store
import LogQuery.Json.Basic
import LogQuery.Json.Number
import LogQuery.Json.Printer
import LogQuery.Json.Reader
import LogQuery.Json.Text
import LogQuery.Outcome
import LogQuery.Pipeline.Batch
import LogQuery.Pipeline.Compile
import LogQuery.Pipeline.Error
import LogQuery.Pipeline.Registry
import LogQuery.Pipeline.Step
import LogQuery.Pipeline.Step.Rex
import LogQuery.Pipeline.Step.Search
import LogQuery.Pipeline.Step.Surrounding
import LogQuery.Pipeline.Step.Table
import LogQuery.Pipeline.Step.Where
import LogQuery.Pipeline.Type
import LogQuery.Proofs.Event.Lookup
import LogQuery.Proofs.Event.Order
import LogQuery.Proofs.Event.Store
import LogQuery.Proofs.Event.Surrounding
import LogQuery.Proofs.Extraction.FileEntries
import LogQuery.Proofs.Extraction.Merging
import LogQuery.Proofs.Extraction.Pairs
import LogQuery.Proofs.Fields
import LogQuery.Proofs.Job.Abort
import LogQuery.Proofs.Job.Calls
import LogQuery.Proofs.Job.Completion
import LogQuery.Proofs.Job.Deposit
import LogQuery.Proofs.Job.Engine
import LogQuery.Proofs.Job.GatheredCounts
import LogQuery.Proofs.Job.History
import LogQuery.Proofs.Job.Interruption
import LogQuery.Proofs.Job.Lifecycle
import LogQuery.Proofs.Job.Live
import LogQuery.Proofs.Job.Paging
import LogQuery.Proofs.Job.Provenance
import LogQuery.Proofs.Job.Records
import LogQuery.Proofs.Job.Registry
import LogQuery.Proofs.Job.Results
import LogQuery.Proofs.Job.SettledRuns
import LogQuery.Proofs.Job.Settling
import LogQuery.Proofs.Job.Starting
import LogQuery.Proofs.Job.State
import LogQuery.Proofs.Job.TableRows
import LogQuery.Proofs.Job.TimeWindow
import LogQuery.Proofs.Job.Turns
import LogQuery.Proofs.Outcome
import LogQuery.Proofs.Pipeline.Builtin
import LogQuery.Proofs.Pipeline.Composition
import LogQuery.Proofs.Pipeline.ConditionReader
import LogQuery.Proofs.Pipeline.Conditions
import LogQuery.Proofs.Pipeline.Emission
import LogQuery.Proofs.Pipeline.ExplicitSearch
import LogQuery.Proofs.Pipeline.FaultOffsets
import LogQuery.Proofs.Pipeline.FieldReadings
import LogQuery.Proofs.Pipeline.FieldSearch
import LogQuery.Proofs.Pipeline.Misfits
import LogQuery.Proofs.Pipeline.PageReadings
import LogQuery.Proofs.Pipeline.PairSearch
import LogQuery.Proofs.Pipeline.QuotedConditions
import LogQuery.Proofs.Pipeline.RequestedBounds
import LogQuery.Proofs.Pipeline.Run
import LogQuery.Proofs.Pipeline.SearchBounds
import LogQuery.Proofs.Pipeline.SearchResults
import LogQuery.Proofs.Pipeline.StageValues
import LogQuery.Proofs.Pipeline.Superseding
import LogQuery.Proofs.Pipeline.Typing
import LogQuery.Proofs.Query.Search.Clauses
import LogQuery.Proofs.Query.Search.Joining
import LogQuery.Proofs.Query.Search.Language
import LogQuery.Proofs.Query.Search.Progress
import LogQuery.Proofs.Query.Search.Pushdown
import LogQuery.Proofs.Query.Search.Reader
import LogQuery.Proofs.Query.Search.Spelling
import LogQuery.Proofs.Query.Stage.Faults
import LogQuery.Proofs.Query.Stage.Joining
import LogQuery.Proofs.Query.Stage.Parts
import LogQuery.Proofs.Query.Stage.Reader
import LogQuery.Proofs.Query.Stage.Writing
import LogQuery.Proofs.Query.Token.Partition
import LogQuery.Proofs.Query.Token.Quotation
import LogQuery.Proofs.Query.Token.Seams
import LogQuery.Proofs.Regex.Footprint
import LogQuery.Proofs.Regex.Machine
import LogQuery.Proofs.Regex.Meaning
import LogQuery.Proofs.Text.ByteSequences
import LogQuery.Proofs.Text.CaseFold
import LogQuery.Proofs.Text.CodeRanges
import LogQuery.Proofs.Text.PlainWord
import LogQuery.Proofs.Time.Calendar
import LogQuery.Proofs.Time.Timestamp
import LogQuery.Proofs.Wildcard.Expression
import LogQuery.Proofs.Wildcard.Fragment
import LogQuery.Proofs.Wildcard.Glob
import LogQuery.Proofs.Wildcard.Limit
import LogQuery.Proofs.Wildcard.Sequence
import LogQuery.Proofs.Wildcard.Short
import LogQuery.Proofs.Wildcard.Spelling
import LogQuery.Query.Error
import LogQuery.Query.Search
import LogQuery.Query.Search.Matching
import LogQuery.Query.Search.Reader
import LogQuery.Query.Stage
import LogQuery.Query.Stage.Reader
import LogQuery.Query.Token
import LogQuery.Query.Token.Lexer
import LogQuery.Regex.CharSet
import LogQuery.Regex.CharSet.Ranges
import LogQuery.Regex.Expr
import LogQuery.Regex.Expr.OfPattern
import LogQuery.Regex.Footprint
import LogQuery.Regex.Outline
import LogQuery.Regex.Pattern
import LogQuery.Regex.Pattern.Reader
import LogQuery.Regex.Program
import LogQuery.Regex.Search
import LogQuery.SortMode
import LogQuery.Text.Alphabetic
import LogQuery.Text.Blank
import LogQuery.Text.ByteSequences
import LogQuery.Text.CaseFold
import LogQuery.Text.CaseRun
import LogQuery.Text.CodeRanges
import LogQuery.Text.Integer
import LogQuery.Text.Lowercase
import LogQuery.Text.Word
import LogQuery.Time.Calendar
import LogQuery.Time.Instant
import LogQuery.Time.Timestamp
import LogQuery.Toml.Basic
import LogQuery.Toml.Reader
import LogQuery.Toml.Scalar
import LogQuery.Toml.Table
import LogQuery.Wildcard.Fragment
import LogQuery.Wildcard.Glob
import LogQuery.Wildcard.Limit
import LogQuery.Wildcard.Sequence
import LogQuery.Wildcard.Spelling
