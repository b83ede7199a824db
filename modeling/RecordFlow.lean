import RecordFlow.Calendar.Date
import RecordFlow.Calendar.Instant
import RecordFlow.Calendar.Pattern
import RecordFlow.Calendar.Reading
import RecordFlow.Calendar.Rendering
import RecordFlow.Formula.Condition
import RecordFlow.Formula.Expression
import RecordFlow.Formula.Literal
import RecordFlow.Formula.Template
import RecordFlow.Json.Number
import RecordFlow.Json.Printer
import RecordFlow.Json.Reader
import RecordFlow.Json.Token
import RecordFlow.Json.Tree
import RecordFlow.Log.Filter
import RecordFlow.Log.Redaction
import RecordFlow.Log.Settings
import RecordFlow.Lookup.Resolve
import RecordFlow.Lookup.Store
import RecordFlow.Main
import RecordFlow.Number.Binary64
import RecordFlow.Number.Numeral
import RecordFlow.Number.Shortest
import RecordFlow.Pipeline.Definition
import RecordFlow.Pipeline.Draft
import RecordFlow.Pipeline.Run
import RecordFlow.Regex.CharSet
import RecordFlow.Regex.Class
import RecordFlow.Regex.Matcher
import RecordFlow.Regex.Parser
import RecordFlow.Regex.Pattern
import RecordFlow.Regex.Property
import RecordFlow.Regex.Replacement
import RecordFlow.Regex.Size
import RecordFlow.Report.Catalogue
import RecordFlow.Report.Evaluation
import RecordFlow.Report.Format
import RecordFlow.Step.Choice
import RecordFlow.Step.Conversion
import RecordFlow.Step.Dates
import RecordFlow.Step.Handler
import RecordFlow.Step.Kind
import RecordFlow.Step.Markup
import RecordFlow.Step.Numeric
import RecordFlow.Step.Options
import RecordFlow.Step.Parts
import RecordFlow.Step.Patterns
import RecordFlow.Step.Sequence
import RecordFlow.Step.Table
import RecordFlow.Step.Wording
import RecordFlow.Terminal.Apply
import RecordFlow.Terminal.Batch
import RecordFlow.Terminal.Console
import RecordFlow.Terminal.Document
import RecordFlow.Terminal.Failure
import RecordFlow.Terminal.Grammar
import RecordFlow.Terminal.Invocation
import RecordFlow.Terminal.Run
import RecordFlow.Terminal.Script
import RecordFlow.Terminal.Settings
import RecordFlow.Text.Blank
import RecordFlow.Text.Case
import RecordFlow.Text.Category
import RecordFlow.Text.CharClass
import RecordFlow.Text.CodeRanges
import RecordFlow.Text.Property
import RecordFlow.Text.Script
import RecordFlow.Text.Search
import RecordFlow.Toml.Reader
import RecordFlow.Toml.Scalar
import RecordFlow.Value.Basic
import RecordFlow.Value.Coercion
import RecordFlow.Value.Decode
import RecordFlow.Value.Path
import RecordFlow.Value.Shape
import RecordFlow.Yaml.Node
import RecordFlow.Yaml.Printer
import RecordFlow.Yaml.Reader
import RecordFlow.Yaml.Scalar
import RecordFlow.Proofs.Text.Scanning
import RecordFlow.Proofs.Formula.ConditionGrammar
import RecordFlow.Proofs.Value.PathWrite
import RecordFlow.Proofs.Pipeline.Frame
import RecordFlow.Proofs.Pipeline.Omission
import RecordFlow.Proofs.Pipeline.Lookups
import RecordFlow.Proofs.Pipeline.Validation
import RecordFlow.Proofs.Log.LabelledSecrets
import RecordFlow.Proofs.Pipeline.Outage
import RecordFlow.Proofs.Terminal.Batches
import RecordFlow.Proofs.Terminal.Scripts
import RecordFlow.Proofs.Terminal.Application
import RecordFlow.Proofs.Value.Fields
import RecordFlow.Proofs.Value.PathExchange
import RecordFlow.Proofs.Value.PathLens
import RecordFlow.Proofs.Pipeline.Exchange
import RecordFlow.Proofs.Formula.ConditionScope
import RecordFlow.Proofs.Log.SensitiveKeys
import RecordFlow.Proofs.Log.MailFree
import RecordFlow.Proofs.Step.Wording
import RecordFlow.Proofs.Step.Markup
import RecordFlow.Proofs.Step.Normalizing
import RecordFlow.Proofs.Number.Spelling
import RecordFlow.Proofs.Step.NumberReaders
import RecordFlow.Proofs.Value.Codecs
import RecordFlow.Proofs.Step.OptionFields
import RecordFlow.Proofs.Pipeline.Rereading
import RecordFlow.Proofs.Calendar.DayNumbers
import RecordFlow.Proofs.Calendar.Instants
import RecordFlow.Proofs.Calendar.Numbers
import RecordFlow.Proofs.Calendar.Fields
import RecordFlow.Proofs.Calendar.Readings
import RecordFlow.Proofs.Calendar.StandardForm
import RecordFlow.Proofs.Calendar.PatternItems
import RecordFlow.Proofs.Calendar.FieldPatterns
import RecordFlow.Proofs.Step.Dates
import RecordFlow.Proofs.Formula.Templates
import RecordFlow.Proofs.Number.Rounding
import RecordFlow.Proofs.Number.ExactValue
import RecordFlow.Proofs.Formula.Literals
import RecordFlow.Proofs.Formula.Ternaries
import RecordFlow.Proofs.Formula.IntegerComparison
import RecordFlow.Proofs.Lookup.Inventories
import RecordFlow.Proofs.Pipeline.LookupEffects
import RecordFlow.Proofs.Step.DecimalPlaces
import RecordFlow.Proofs.Text.ByteOrder
import RecordFlow.Proofs.Lookup.Tables
import RecordFlow.Proofs.Step.FormattedNumbers
import RecordFlow.Proofs.Step.IntegerTexts
import RecordFlow.Proofs.Step.Entities
import RecordFlow.Proofs.Text.Splitting
import RecordFlow.Proofs.Formula.SplitAndJoin
import RecordFlow.Proofs.Value.Nesting
import RecordFlow.Proofs.Json.Numbers
import RecordFlow.Proofs.Json.Tokens
import RecordFlow.Proofs.Json.Reading
import RecordFlow.Proofs.Step.JsonTexts
import RecordFlow.Proofs.Step.Delimiters
import RecordFlow.Proofs.Formula.Substrings
import RecordFlow.Proofs.Step.Arithmetic
import RecordFlow.Proofs.Step.Flattening
import RecordFlow.Proofs.Step.Slugs
import RecordFlow.Proofs.Step.Filters
import RecordFlow.Proofs.Pipeline.CustomHandlers
import RecordFlow.Proofs.Step.Padding
import RecordFlow.Proofs.Text.CaseImages
import RecordFlow.Proofs.Step.Titles
