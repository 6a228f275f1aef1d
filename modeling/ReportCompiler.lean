import ReportCompiler.Asset.Base64
import ReportCompiler.Asset.Fetch
import ReportCompiler.Asset.Inline
import ReportCompiler.Asset.Url
import ReportCompiler.Binding.Marker
import ReportCompiler.Binding.Path
import ReportCompiler.Calendar.Basic
import ReportCompiler.Calendar.Iso
import ReportCompiler.Calendar.Pattern
import ReportCompiler.CommandLine.Basic
import ReportCompiler.CommandLine.Compile
import ReportCompiler.CommandLine.Folder
import ReportCompiler.CommandLine.Grammar
import ReportCompiler.CommandLine.Report
import ReportCompiler.Compile.Basic
import ReportCompiler.Compile.BindingCheck
import ReportCompiler.Compile.Diagnostic
import ReportCompiler.Compile.Outline
import ReportCompiler.Compile.Own
import ReportCompiler.Condition.Basic
import ReportCompiler.Condition.Evaluation
import ReportCompiler.Condition.Parser
import ReportCompiler.Condition.Token
import ReportCompiler.Document.Basic
import ReportCompiler.Document.Config
import ReportCompiler.Document.Program
import ReportCompiler.Document.Program.Bindings
import ReportCompiler.Document.Program.Charts
import ReportCompiler.Document.Program.Conditions
import ReportCompiler.Document.Program.Dates
import ReportCompiler.Document.Program.Pipeline
import ReportCompiler.Document.Program.Values
import ReportCompiler.Document.Program.Widgets
import ReportCompiler.ErrorReport
import ReportCompiler.Export.Basic
import ReportCompiler.Export.Options
import ReportCompiler.Export.Session
import ReportCompiler.Fault
import ReportCompiler.Log.Basic
import ReportCompiler.Main
import ReportCompiler.Markup.Basic
import ReportCompiler.Metrics.Basic
import ReportCompiler.Number.Basic
import ReportCompiler.Number.Decimal
import ReportCompiler.Number.Double
import ReportCompiler.Number.Places
import ReportCompiler.Number.Reader
import ReportCompiler.Payload.Field
import ReportCompiler.Payload.Issue
import ReportCompiler.Preview.Binding
import ReportCompiler.Preview.Series
import ReportCompiler.Proofs.Asset.Base64
import ReportCompiler.Proofs.Asset.DataUrl
import ReportCompiler.Proofs.Asset.ImageType
import ReportCompiler.Proofs.Asset.Inlining
import ReportCompiler.Proofs.Asset.Outcomes
import ReportCompiler.Proofs.Asset.Replacement
import ReportCompiler.Proofs.Asset.Requests
import ReportCompiler.Proofs.Attempt
import ReportCompiler.Proofs.Binding.Alone
import ReportCompiler.Proofs.Binding.Interpolation
import ReportCompiler.Proofs.Binding.Lookup
import ReportCompiler.Proofs.Binding.Marker
import ReportCompiler.Proofs.Calendar.Expansion
import ReportCompiler.Proofs.Calendar.ReadBack
import ReportCompiler.Proofs.CommandLine.Ending
import ReportCompiler.Proofs.CommandLine.Options
import ReportCompiler.Proofs.Compile.Alongside
import ReportCompiler.Proofs.Compile.Branch
import ReportCompiler.Proofs.Compile.ChartPaths
import ReportCompiler.Proofs.Compile.Coverage
import ReportCompiler.Proofs.Compile.Entries
import ReportCompiler.Proofs.Compile.Faultless
import ReportCompiler.Proofs.Compile.Forest
import ReportCompiler.Proofs.Compile.Hidden
import ReportCompiler.Proofs.Compile.Isolation
import ReportCompiler.Proofs.Compile.Lookups
import ReportCompiler.Proofs.Compile.Pages
import ReportCompiler.Proofs.Compile.Place
import ReportCompiler.Proofs.Compile.Preview
import ReportCompiler.Proofs.Compile.Reads
import ReportCompiler.Proofs.Compile.Sources
import ReportCompiler.Proofs.Compile.Splicing
import ReportCompiler.Proofs.Compile.Surplus
import ReportCompiler.Proofs.Compile.Unbound
import ReportCompiler.Proofs.Compile.Visits
import ReportCompiler.Proofs.Compile.Walk
import ReportCompiler.Proofs.Condition.Accepted
import ReportCompiler.Proofs.Condition.Composition
import ReportCompiler.Proofs.Condition.Concatenation
import ReportCompiler.Proofs.Condition.Grammar
import ReportCompiler.Proofs.Condition.Identity
import ReportCompiler.Proofs.Condition.Lexeme
import ReportCompiler.Proofs.Condition.Printing
import ReportCompiler.Proofs.Condition.Stumbling
import ReportCompiler.Proofs.Condition.TokenLanguage
import ReportCompiler.Proofs.Document.Island
import ReportCompiler.Proofs.Export.Bindings
import ReportCompiler.Proofs.Export.Checks
import ReportCompiler.Proofs.Export.Independence
import ReportCompiler.Proofs.Export.Numbers
import ReportCompiler.Proofs.Export.Outcome
import ReportCompiler.Proofs.Export.Session
import ReportCompiler.Proofs.Export.Validation
import ReportCompiler.Proofs.FirstOccurrences
import ReportCompiler.Proofs.Markup.Elements
import ReportCompiler.Proofs.Markup.Lexer
import ReportCompiler.Proofs.Markup.ReadBack
import ReportCompiler.Proofs.Markup.Reference
import ReportCompiler.Proofs.Metrics.Exports
import ReportCompiler.Proofs.Metrics.Growth
import ReportCompiler.Proofs.Number.Digits
import ReportCompiler.Proofs.Number.Nearest
import ReportCompiler.Proofs.Number.Numeral
import ReportCompiler.Proofs.Number.Range
import ReportCompiler.Proofs.Number.Reading
import ReportCompiler.Proofs.Number.Shortest
import ReportCompiler.Proofs.Number.Text
import ReportCompiler.Proofs.Preview.Filling
import ReportCompiler.Proofs.Preview.Lookups
import ReportCompiler.Proofs.Preview.Plotting
import ReportCompiler.Proofs.Preview.Readable
import ReportCompiler.Proofs.Preview.Reads
import ReportCompiler.Proofs.Preview.Series
import ReportCompiler.Proofs.Preview.Showing
import ReportCompiler.Proofs.Preview.Unbound
import ReportCompiler.Proofs.Service.Download
import ReportCompiler.Proofs.Style.Merging
import ReportCompiler.Proofs.Template.Ancestry
import ReportCompiler.Proofs.Template.Keys
import ReportCompiler.Proofs.Template.Payload
import ReportCompiler.Proofs.Template.Reachable
import ReportCompiler.Proofs.Template.Shape
import ReportCompiler.Proofs.Template.Wrapping
import ReportCompiler.Proofs.Text.Case
import ReportCompiler.Proofs.Text.Cutting
import ReportCompiler.Proofs.Text.Search
import ReportCompiler.Proofs.Text.Trimming
import ReportCompiler.Proofs.Value.Escapes
import ReportCompiler.Proofs.Value.Fields
import ReportCompiler.Proofs.Value.Leaves
import ReportCompiler.Proofs.Value.Plain
import ReportCompiler.Proofs.Value.ReadBack
import ReportCompiler.Proofs.Value.Reading
import ReportCompiler.Proofs.Value.Same
import ReportCompiler.Proofs.Value.Strict
import ReportCompiler.Proofs.Widget.AxisLabels
import ReportCompiler.Proofs.Widget.Containment
import ReportCompiler.Proofs.Widget.Drawable
import ReportCompiler.Proofs.Widget.Drawing
import ReportCompiler.Proofs.Widget.Entry
import ReportCompiler.Proofs.Widget.Hooks
import ReportCompiler.Proofs.Widget.Lookups
import ReportCompiler.Proofs.Widget.Rendering
import ReportCompiler.Proofs.Widget.Settings
import ReportCompiler.Proofs.Widget.TableCells
import ReportCompiler.Proofs.Widget.Vocabulary
import ReportCompiler.Service.Basic
import ReportCompiler.Service.Request
import ReportCompiler.Settings.Basic
import ReportCompiler.Settings.Payload
import ReportCompiler.Stencil.Library
import ReportCompiler.Stencil.Parser
import ReportCompiler.Stencil.Word
import ReportCompiler.Style.Basic
import ReportCompiler.Style.Color
import ReportCompiler.Style.Page
import ReportCompiler.Template.Basic
import ReportCompiler.Template.Payload
import ReportCompiler.Template.Value
import ReportCompiler.Text.Basic
import ReportCompiler.Text.Blank
import ReportCompiler.Text.Case
import ReportCompiler.Text.Digit
import ReportCompiler.Text.Printable
import ReportCompiler.Text.Quoted
import ReportCompiler.Text.Ranges
import ReportCompiler.Text.Similarity
import ReportCompiler.Text.Word
import ReportCompiler.Value.Basic
import ReportCompiler.Value.Display
import ReportCompiler.Value.Equality
import ReportCompiler.Value.Fixed
import ReportCompiler.Value.Json
import ReportCompiler.Value.Numeric
import ReportCompiler.Value.Reader
import ReportCompiler.Value.Temporal
import ReportCompiler.Widget.Basic
import ReportCompiler.Widget.Chart
import ReportCompiler.Widget.Kind
import ReportCompiler.Widget.Layout
import ReportCompiler.Widget.Payload
import ReportCompiler.Widget.Renderer
import ReportCompiler.Widget.Status
import ReportCompiler.Widget.Table
import ReportCompiler.Widget.Text
import ReportCompiler.Proofs.Compile.Splicing
import ReportCompiler.Proofs.Condition.TokenLanguage
