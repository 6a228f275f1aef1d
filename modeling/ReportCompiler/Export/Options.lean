import ReportCompiler.Payload.Field
import ReportCompiler.Style.Page

/-!
Options of one export. What is left open is decided by the settings when the document is written.
-/

namespace ReportCompiler

open ReportCompiler.Payload

structure ExportOptions where
  /-- Title of the document and name of the download. -/
  filename : String := "Report"
  pageSize : PageSize := .a4
  /-- In millimetres. -/
  margins : Sides Number := .uniform (.int 20)
  /-- Whether the sample data goes into the document. -/
  embedsData : Bool := false
  hasWatermark : Bool := false
  autoPrint : Option Bool := none
  /-- In milliseconds, like the other times. -/
  printDelay : Option Int := none
  dataPath : Option String := none
  fetchTimeout : Option Int := none
  inlinesAssets : Option Bool := none
  hasChartFallbacks : Bool := false
  /-- Whether the markup shows the sample data. -/
  showsData : Bool := false
  /-- Whether errors in the template end the export. -/
  isStrict : Bool := false
deriving Repr, Inhabited

namespace ExportOptions

/-- A title without blanks around it; a blank one gives way to the default. -/
def titled (s : String) : String :=
  let trimmed := Text.trim s
  if trimmed == "" then "Report" else trimmed

def title : Payload.Reader String := fun value => (text value).map titled

def pageSizeNamed : Payload.Reader PageSize
  | .text s =>
      match PageSize.ofName? s with
      | some size => .valid size
      | none => refuse .notListed
  | _ => refuse .notListed

def margin : Payload.Reader Number := fun value => (notBelowZero value).map Number.double

def marginsOf (fields : Fields) : Checked (Sides Number) :=
  (fun top right bottom left => { top, right, bottom, left : Sides Number })
    <$> Payload.optional ["top"] (.int 20) margin fields
    <*> Payload.optional ["right"] (.int 20) margin fields
    <*> Payload.optional ["bottom"] (.int 20) margin fields
    <*> Payload.optional ["left"] (.int 20) margin fields

def ofFields (orAttributes : Bool) (fields : Fields) : Checked ExportOptions :=
  (fun filename pageSize margins embedsData hasWatermark autoPrint printDelay dataPath fetchTimeout
      inlinesAssets hasChartFallbacks showsData isStrict =>
    { filename, pageSize, margins, embedsData, hasWatermark, autoPrint, printDelay, dataPath,
      fetchTimeout, inlinesAssets, hasChartFallbacks, showsData, isStrict : ExportOptions })
    <$> Payload.optional ["filename"] "Report" title fields
    <*> Payload.optional ["pageSize", "page_size"] .a4 pageSizeNamed fields
    <*> Payload.optional ["margins"] (.uniform (.int 20)) (record orAttributes marginsOf) fields
    <*> Payload.optional ["includeSampleData", "include_sample_data"] false truthValue fields
    <*> Payload.optional ["includeWatermark", "include_watermark"] false truthValue fields
    <*> Payload.optional ["autoPrint", "auto_print"] none (nullable truthValue) fields
    <*> Payload.optional ["printDelayMs", "print_delay_ms"] none (nullable notNegative) fields
    <*> Payload.optional ["dataPath", "data_path"] none (nullable text) fields
    <*> Payload.optional ["fetchTimeoutMs", "fetch_timeout_ms"] none (nullable notNegative) fields
    <*> Payload.optional ["inlineAssets", "inline_assets"] none (nullable truthValue) fields
    <*> Payload.optional ["chartCdnFallbacks", "chart_cdn_fallbacks"] false truthValue fields
    <*> Payload.optional ["bindSampleData", "bind_sample_data"] false truthValue fields
    <*> Payload.optional ["strict"] false truthValue fields

/-- Options from a payload; null stands for the defaults. -/
def ofPayload : Payload.Reader ExportOptions
  | .null => .valid {}
  | value => record false (ofFields false) value

/-! ### Options as an object -/

def optional {α : Type} (f : α → Value) : Option α → Value
  | some value => f value
  | none => .null

def value (options : ExportOptions) : Value :=
  .object [("filename", .text options.filename), ("page_size", .text options.pageSize.name),
    ("margins", .object (Sides.names.toList.zip (options.margins.toList.map .number))),
    ("include_sample_data", .bool options.embedsData),
    ("include_watermark", .bool options.hasWatermark),
    ("auto_print", optional .bool options.autoPrint),
    ("print_delay_ms", optional .int options.printDelay),
    ("data_path", optional .text options.dataPath),
    ("fetch_timeout_ms", optional .int options.fetchTimeout),
    ("inline_assets", optional .bool options.inlinesAssets),
    ("chart_cdn_fallbacks", .bool options.hasChartFallbacks),
    ("bind_sample_data", .bool options.showsData), ("strict", .bool options.isStrict)]

end ExportOptions

end ReportCompiler
