import Rostering.Arguments
import Rostering.Assembly
import Rostering.Build
import Rostering.Calendar
import Rostering.Config.Decode
import Rostering.Config.Encode
import Rostering.Config.Origins
import Rostering.Config.Text
import Rostering.Csv.Column
import Rostering.Csv.Guess
import Rostering.Csv.Header
import Rostering.Csv.Layout
import Rostering.Csv.Number
import Rostering.Csv.Options
import Rostering.Csv.Reader
import Rostering.Csv.Row
import Rostering.Csv.RowColumn
import Rostering.Csv.RowFeed
import Rostering.Csv.RowLayout
import Rostering.Csv.Scan
import Rostering.Decimal.Exact
import Rostering.Decimal.Read
import Rostering.Decimal.Shortest
import Rostering.Failure
import Rostering.Files
import Rostering.Json.Printer
import Rostering.Json.Reader
import Rostering.Json.Tagged
import Rostering.KeyPath
import Rostering.Loader
import Rostering.Model.Basic
import Rostering.Model.Box
import Rostering.Model.Linear
import Rostering.Model.Outcome
import Rostering.Model.Report
import Rostering.Model.Search
import Rostering.Model.Solution
import Rostering.Named
import Rostering.Patch
import Rostering.PatchRequest
import Rostering.Powers
import Rostering.Presentation
import Rostering.Proofs.Build
import Rostering.Proofs.Calendar
import Rostering.Proofs.Config.Acceptance
import Rostering.Proofs.Config.Fields
import Rostering.Proofs.Config.Grammar
import Rostering.Proofs.Config.RoundTrip
import Rostering.Proofs.Config.WellFormed
import Rostering.Proofs.Coverage
import Rostering.Proofs.Except
import Rostering.Proofs.Json.Number
import Rostering.Proofs.Json.Text
import Rostering.Proofs.Model.Family
import Rostering.Proofs.Named
import Rostering.Proofs.Patch.Batch
import Rostering.Proofs.Patch.Change
import Rostering.Proofs.Patch.Order
import Rostering.Proofs.Session.Caching
import Rostering.Proofs.Session.Invariant
import Rostering.Proofs.Session.Run
import Rostering.Proofs.Specification
import Rostering.Proofs.Staffing.Problem
import Rostering.Proofs.Staffing.Rules
import Rostering.Proofs.Staffing.Schedule
import Rostering.Proofs.Value.Text
import Rostering.Registry
import Rostering.Service.Answer
import Rostering.Service.Request
import Rostering.Service.Standard
import Rostering.Session.Basic
import Rostering.Session.Store
import Rostering.Settings
import Rostering.Specification
import Rostering.Staffing.Demand
import Rostering.Staffing.Goals
import Rostering.Staffing.Problem
import Rostering.Staffing.Rules
import Rostering.Table
import Rostering.Text.Case
import Rostering.Text.CaseIgnorable
import Rostering.Text.CodePage
import Rostering.Text.CodePages
import Rostering.Text.Digits
import Rostering.Text.Encoding
import Rostering.Text.Pattern.Basic
import Rostering.Text.Pattern.Reader
import Rostering.Text.Printable
import Rostering.Text.Ranges
import Rostering.Text.Search
import Rostering.Text.Utf8
import Rostering.Text.Word
import Rostering.Value.Basic
import Rostering.Value.Text
import Rostering.World
import Rostering.Yaml.Anchored
import Rostering.Yaml.Cursor
import Rostering.Yaml.Meaning
import Rostering.Yaml.Node
import Rostering.Yaml.Origin
import Rostering.Yaml.Printer
import Rostering.Yaml.ScalarText
import Rostering.Yaml.Tag
import Rostering.Yaml.Token
import Rostering.Proofs.Json.Document
import Rostering.Proofs.Json.RoundTrip
import Rostering.Proofs.Config.JsonText
import Rostering.Proofs.Json.Order
import Rostering.Proofs.Loader.Memo
import Rostering.Proofs.Loader.Agreement
import Rostering.Proofs.Reproduction
import Rostering.Proofs.Loader.Failures
import Rostering.Proofs.Staffing.Failures
import Rostering.Proofs.Failures
import Rostering.Proofs.Session.Independence
import Rostering.Proofs.Session.Interleaving
import Rostering.Proofs.Session.Linearizable
import Rostering.Proofs.Service.Step
import Rostering.Proofs.Service.Guards
import Rostering.Proofs.Service.Sending
import Rostering.Proofs.Service.Refusals
import Rostering.Proofs.Revision
import Rostering.Proofs.Pipeline
import Rostering.Proofs.Shielding
import Rostering.Proofs.Service.Effect
import Rostering.Proofs.Service.Ledger
import Rostering.Proofs.Staffing.Workdays
import Rostering.Proofs.Staffing.Rest
import Rostering.Proofs.Spacing
import Rostering.Proofs.Loader.History
import Rostering.Proofs.Model.Key
import Rostering.Proofs.Plan
import Rostering.Proofs.Staffing.Workload
import Rostering.Proofs.Balance
import Rostering.Proofs.Staffing.Cost
import Rostering.Proofs.Hiring
import Rostering.Proofs.Staffing.Demand
import Rostering.Proofs.Staffing.Labels
import Rostering.Proofs.Labels
import Rostering.Proofs.Patch.Effect
import Rostering.Proofs.Loader.Materialization
import Rostering.Proofs.Model.Nesting
import Rostering.Proofs.Reporting
import Rostering.Proofs.Staffing.Padding
import Rostering.Proofs.Padding
import Rostering.Proofs.DayRange
import Rostering.Proofs.Config.Recognised
import Rostering.Proofs.Table.Keyed
import Rostering.Proofs.KeyPath.Numeral
import Rostering.Proofs.KeyPath.Descent
import Rostering.Proofs.Loader.Reading
import Rostering.Proofs.Size
import Rostering.Proofs.PatchRequest
import Rostering.Proofs.Service.Spelling
import Rostering.Proofs.Presentation
import Rostering.Proofs.Registry
