import ReportCompiler.Asset.Inline
import ReportCompiler.Compile.Basic
import ReportCompiler.Compile.BindingCheck
import ReportCompiler.Document.Basic
import ReportCompiler.ErrorReport
import ReportCompiler.Metrics.Basic

/-!
A whole export: images are put inside, the template is compiled, its bindings are checked against the
sample data, and the document is assembled. Problems in the template never end an export unless its
options are strict. Every run also tells what it counted and which addresses it requested.
-/

namespace ReportCompiler

structure Exporter where
  settings : Settings
  client : Asset.Client
  /-- The moment by which widgets are drawn. -/
  now : Moment
  /-- How long exports and requests take, in seconds. -/
  duration : Number

structure ExportResult where
  html : String
  components : List Component
  findings : List Finding
  widgetCount : Nat
deriving Repr

/-- The result as an object, with how many errors and warnings there are. -/
def ExportResult.value (result : ExportResult) : Value :=
  let count (severity : Severity) : Value := .int (severity.select result.findings).length
  .object [("html", .text result.html),
    ("components", .list (result.components.map Component.value)),
    ("diagnostics", .list (result.findings.map Finding.value)),
    ("component_count", .int result.widgetCount), ("errors", count .error),
    ("warnings", count .warning)]

inductive ExportFailure where
  /-- A strict export of a template with errors. -/
  | hasErrors (findings : List Finding)
  | fault (fault : Fault)
deriving Repr

/-- An outcome and all that can be observed beside it. -/
structure Run (α : Type) where
  outcome : Except ExportFailure α
  events : List Metrics.Event
  requested : List String

namespace Finding

def event (finding : Finding) : Metrics.Event := .diagnostic finding.code finding.severity.name

/-- What is reported when errors end an export. -/
def report (findings : List Finding) : ErrorReport :=
  .uncompilable
    ("Template has " ++ toString (Severity.error.select findings).length ++ " compile errors")
    (.list (findings.map value))

end Finding

namespace Exporter

/-! ### Images -/

def inlines (e : Exporter) (options : ExportOptions) : Bool :=
  options.inlinesAssets.getD e.settings.inlinesAssets

/-- The template with its images inside, if the export wants them there. -/
def prepare (e : Exporter) (options : ExportOptions) (tree : Tree) : Tree × Asset.Report :=
  if e.inlines options then
    (Asset.inlineTree e.client (Asset.batchSize e.settings.assetConcurrency none) tree).run
  else (tree, .empty)

def assetEvents (report : Asset.Report) : List Metrics.Event := report.successes.map .asset

def assetFindings (report : Asset.Report) : List Finding :=
  report.errors.map fun (url, reason) => .assetNotInlined url reason

/-! ### Exports -/

def surroundings (e : Exporter) (options : ExportOptions) (data : Value) : Surroundings :=
  { registry := .standard, now := e.now, data := if options.showsData then data else .null }

/-- Bindings are checked against sample data only where there is some. -/
def bindingFindings (compiled : Compiled) (data : Value) : Except Fault (List Finding) :=
  if data.isNull then .ok [] else checkBindings compiled.components data

/-- What was compiled, together with the problems of its images, made into a document. -/
def finish (e : Exporter) (kind : String) (reports : List Asset.Report) (compiled : Compiled)
    (data : Value) (options : ExportOptions) : Run ExportResult :=
  let before := reports.flatMap assetEvents
  let requested := reports.flatMap Asset.Report.requested
  match bindingFindings compiled data with
  | .error fault => { outcome := .error (.fault fault), events := before, requested }
  | .ok unresolved =>
      let findings := reports.flatMap assetFindings ++ compiled.findings ++ unresolved
      let events := before ++ findings.map Finding.event
      if options.isStrict && !(Severity.error.select findings).isEmpty then
        { outcome := .error (.hasErrors findings)
          events := events ++ [.finishedExport kind "failed" e.duration 0]
          requested }
      else
        match Document.assemble compiled.html compiled.components data options e.settings with
        | .error fault => { outcome := .error (.fault fault), events, requested }
        | .ok html =>
            let components := compiled.components
            let widgetCount := compiled.widgetCount
            { outcome := .ok { html, components, findings, widgetCount }
              events := events ++ [.finishedExport kind "success" e.duration widgetCount]
              requested }

/-- Exports a template of one page. -/
def exportTree (e : Exporter) (tree : Tree) (data : Value) (options : ExportOptions) :
    Run ExportResult :=
  let (prepared, report) := e.prepare options tree
  e.finish "single" [report] (compile (e.surroundings options data) prepared) data options

/-- Exports a template of several pages, which appear in their order. -/
def exportPages (e : Exporter) (pages : List Page) (data : Value) (options : ExportOptions) :
    Run ExportResult :=
  let prepared := pages.map fun page => (page, e.prepare options page.canvas)
  let inlined := prepared.map fun (page, canvas, _) => { page with canvas }
  e.finish "pages" (prepared.map fun (_, _, report) => report)
    (compilePages (e.surroundings options data) inlined) data options

/-- The problems of a template, without its images and without a document. -/
def validate (e : Exporter) (tree : Tree) (data : Value) : Except Fault (List Finding) := do
  let compiled := compile (e.surroundings {} .null) tree
  return compiled.findings ++ (← bindingFindings compiled data)

end Exporter

end ReportCompiler
