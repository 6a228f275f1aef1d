import ReportCompiler.Number.Decimal
import ReportCompiler.Style.Page

/-!
Settings of the application and their defaults. Options of an export fall back on them.
-/

namespace ReportCompiler

/-- Where the application runs. -/
inductive Environment where
  | development
  | test
  | staging
  | production
deriving DecidableEq, Repr, Inhabited

namespace Environment

def all : List Environment := [development, test, staging, production]

def name : Environment → String
  | development => "development"
  | test => "test"
  | staging => "staging"
  | production => "production"

def ofName? (name : String) : Option Environment :=
  all.find? fun environment => environment.name == name

end Environment

inductive LogFormat where
  | json
  | text
deriving DecidableEq, Repr, Inhabited

def LogFormat.name : LogFormat → String
  | json => "json"
  | text => "text"

/-- All settings; times are in milliseconds, but for the timeout of a fetch, which is in seconds. -/
structure Settings where
  environment : Environment := .development
  isDebug : Bool := false
  appName : String := "ReportBuilder"
  appVersion : String := "0.1.0"
  logLevel : String := "INFO"
  logFormat : LogFormat := .json
  corsOrigins : List String := ["*"]
  showsMetrics : Bool := true
  chartScript : String := "https://cdn.jsdelivr.net/npm/chart.js@4.4.1/dist/chart.umd.min.js"
  /-- Tried in order when the chart library cannot be loaded from its first place. -/
  chartFallbacks : List String :=
    ["https://unpkg.com/chart.js@4.4.1/dist/chart.umd.min.js",
      "https://cdnjs.cloudflare.com/ajax/libs/Chart.js/4.4.1/chart.umd.min.js"]
  dataPath : String := "./report_data.json"
  autoPrint : Bool := true
  printDelay : Int := 500
  fetchTimeout : Int := 10000
  chartWait : Int := 3000
  inlinesAssets : Bool := true
  /-- How many images are fetched at once. -/
  assetConcurrency : Int := 5
  assetTimeout : Double := .ofInt 10
  pageSize : PageSize := .a4
  /-- In millimetres. -/
  margin : Double := .ofInt 20
  watermark : String := "Made with ReportBuilder"
  maxNodes : Int := 5000
deriving Repr, Inhabited

/-- The settings as an object, together with what they say about where the application runs. -/
def Settings.value (s : Settings) : Value :=
  .object [("environment", .text s.environment.name), ("debug", .bool s.isDebug),
    ("app_name", .text s.appName), ("app_version", .text s.appVersion),
    ("log_level", .text s.logLevel), ("log_format", .text s.logFormat.name),
    ("cors_origins", .list (s.corsOrigins.map .text)),
    ("prometheus_enabled", .bool s.showsMetrics), ("chart_js_cdn_url", .text s.chartScript),
    ("chart_js_fallback_urls", .list (s.chartFallbacks.map .text)),
    ("runtime_data_path", .text s.dataPath), ("runtime_auto_print", .bool s.autoPrint),
    ("runtime_print_delay_ms", .int s.printDelay),
    ("runtime_fetch_timeout_ms", .int s.fetchTimeout),
    ("runtime_chart_wait_ms", .int s.chartWait), ("asset_inline_enabled", .bool s.inlinesAssets),
    ("asset_fetch_concurrency", .int s.assetConcurrency),
    ("asset_fetch_timeout", .double s.assetTimeout),
    ("default_page_size", .text s.pageSize.name), ("default_margin_mm", .double s.margin),
    ("watermark_text", .text s.watermark), ("max_tree_nodes", .int s.maxNodes),
    ("is_production", .bool (s.environment == .production)),
    ("is_development", .bool (s.environment == .development))]

end ReportCompiler
