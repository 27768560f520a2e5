import Rulebook.CommandLine
import Rulebook.Condition
import Rulebook.Condition.Evaluation
import Rulebook.Condition.Reader
import Rulebook.Decimal
import Rulebook.Decimal.Layout
import Rulebook.Decimal.Literal
import Rulebook.Decimal.Shortest
import Rulebook.Expression
import Rulebook.Expression.Codec
import Rulebook.Expression.Reader
import Rulebook.Fault
import Rulebook.GroupKey
import Rulebook.Host
import Rulebook.Host.Folder
import Rulebook.Ini
import Rulebook.Json
import Rulebook.Json.Canonical
import Rulebook.Json.Number
import Rulebook.Json.Printer
import Rulebook.Json.Quoted
import Rulebook.Json.Reader
import Rulebook.Json.Record
import Rulebook.Json5
import Rulebook.LogFilter
import Rulebook.LogFilter.Directive
import Rulebook.LogFilter.FieldTest
import Rulebook.LogFilter.Level
import Rulebook.LogFilter.Pattern
import Rulebook.LogFilter.Pattern.CharClass
import Rulebook.LogFilter.Pattern.Reader
import Rulebook.Main
import Rulebook.Numeral
import Rulebook.Operator
import Rulebook.Program
import Rulebook.Proofs.Expression.Layout
import Rulebook.Proofs.Expression.Reading
import Rulebook.Proofs.Expression.References
import Rulebook.Proofs.GroupKey
import Rulebook.Proofs.Row.Cells
import Rulebook.Proofs.RuleSet.Order
import Rulebook.Proofs.RuleSet.Ranking
import Rulebook.Proofs.RuleSet.Validity
import Rulebook.Proofs.Success
import Rulebook.Proofs.Text.Lowering
import Rulebook.Proofs.Text.Standing
import Rulebook.Proofs.Text.Trimming
import Rulebook.Proofs.Workbook.Incremental
import Rulebook.Proofs.Workbook.Invariant
import Rulebook.Proofs.Workbook.Labels
import Rulebook.Proofs.Workbook.Runs
import Rulebook.Ron
import Rulebook.Ron.Number
import Rulebook.Row
import Rulebook.Row.Codec
import Rulebook.Rule
import Rulebook.RuleSet.Codec
import Rulebook.Rule.Report
import Rulebook.RuleSet
import Rulebook.Setting
import Rulebook.Setting.Codec
import Rulebook.Setting.Path
import Rulebook.Settings
import Rulebook.Settings.Environment
import Rulebook.Settings.File
import Rulebook.Settings.Sources
import Rulebook.Summary
import Rulebook.Summary.Codec
import Rulebook.Text.Alphabetic
import Rulebook.Text.Alphanumeric
import Rulebook.Text.Blank
import Rulebook.Text.Lowercase
import Rulebook.Text.Lowercase.Table
import Rulebook.Text.Parts
import Rulebook.Text.Quoted
import Rulebook.Text.Ranges
import Rulebook.Text.Word
import Rulebook.Toml
import Rulebook.Toml.Moment
import Rulebook.Toml.Number
import Rulebook.Toml.Reader
import Rulebook.Workbook
import Rulebook.Workbook.Meters
import Rulebook.Workbook.Session
import Rulebook.Workbook.Snapshot
import Rulebook.Yaml.Cursor
import Rulebook.Yaml.Layout
import Rulebook.Yaml.Node
import Rulebook.Yaml.Reader
import Rulebook.Yaml.Scalar
import Rulebook.Yaml.Token
import Rulebook.Proofs.RuleSet.Refusals
import Rulebook.Proofs.Workbook.Refusals
import Rulebook.Proofs.Workbook.Restoring
import Rulebook.Proofs.FirstSeen
import Rulebook.Proofs.Summary.Groups
import Rulebook.Proofs.Json.Number
import Rulebook.Proofs.Json.Quoted
import Rulebook.Proofs.Json.Reading
import Rulebook.Proofs.Json.RoundTrip
import Rulebook.Proofs.Row.Codec
import Rulebook.Proofs.Workbook.Storage
import Rulebook.Proofs.Rule.Report
import Rulebook.Proofs.Workbook.Explaining
import Rulebook.Proofs.Workbook.Relabelling
import Rulebook.Proofs.Host
import Rulebook.Proofs.Host.Folder
import Rulebook.Proofs.Settings
import Rulebook.Proofs.Workbook.Opening
import Rulebook.Proofs.Program.Produced
import Rulebook.Proofs.Program.Document
import Rulebook.Proofs.Program.Outcome
import Rulebook.Proofs.Program.Again
import Rulebook.Proofs.Workbook.Imported
import Rulebook.Proofs.Workbook.Passes
import Rulebook.Proofs.Workbook.Metering
import Rulebook.Proofs.Summary.OneField
import Rulebook.Proofs.Json.Canonical
import Rulebook.Proofs.Summary.Codec
import Rulebook.Proofs.Program.Printed
import Rulebook.Proofs.Workbook.LabelGroups
import Rulebook.Proofs.Expression.Fields
import Rulebook.Proofs.Decimal.Shortest
import Rulebook.Proofs.Json.Real
import Rulebook.Proofs.Expression.Codec
import Rulebook.Proofs.Condition.Equality
import Rulebook.Proofs.Numeral
import Rulebook.Proofs.Expression.Comparison
import Rulebook.Proofs.Double.Bits
import Rulebook.Proofs.Double.Rounding
import Rulebook.Proofs.Decimal.ReadBack
import Rulebook.Proofs.Condition.Display
import Rulebook.Proofs.Condition.Order
import Rulebook.Proofs.Numeral.Layout
import Rulebook.Proofs.Numeral.Literal
import Rulebook.Proofs.Numeral.Longest
import Rulebook.Proofs.Text.Sigma
import Rulebook.Proofs.Condition.Containment
import Rulebook.Proofs.UpToFirst
import Rulebook.Proofs.Rule.Trace
import Rulebook.Proofs.RuleSet.Restoring
import Rulebook.Proofs.Workbook.Accepting
import Rulebook.Proofs.Summary.Refinement
import Rulebook.Proofs.GroupKey.Selection
import Rulebook.Proofs.Summary.Cardinality
import Rulebook.Proofs.Double.Value
import Rulebook.Proofs.Summary.Sums
import Rulebook.Proofs.Workbook.Summing
import Rulebook.Proofs.Expression.Conclusion
import Rulebook.Proofs.Row.Columns
import Rulebook.Proofs.Expression.Resolution
import Rulebook.Proofs.Setting.Layers
import Rulebook.Proofs.Setting.Merging
import Rulebook.Proofs.Settings.Slots
import Rulebook.Proofs.Settings.Layering
import Rulebook.Proofs.Text.Encoding
import Rulebook.Proofs.Expression.Splitting
import Rulebook.Proofs.Expression.Positions
import Rulebook.Proofs.Condition.WellFormed
import Rulebook.Proofs.Expression.WellFormed
import Rulebook.Proofs.LogFilter
