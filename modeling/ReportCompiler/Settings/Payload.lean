import ReportCompiler.Payload.Field
import ReportCompiler.Settings.Basic
import ReportCompiler.Value.Reader

/-!
Settings from given values and from an environment of named texts. Names in the environment are taken
in lower case, given values win over it, and settings that are lists are written there as JSON.
-/

namespace ReportCompiler

open ReportCompiler.Payload

namespace Settings

/-- A name out of a closed list. -/
def oneOf {α : Type} (find? : String → Option α) : Payload.Reader α := fun value =>
  (text value).andThen fun s =>
    match find? s with
    | some result => .valid result
    | none => refuse .refused

def logFormatNamed (s : String) : Option LogFormat :=
  [LogFormat.json, LogFormat.text].find? fun format => format.name == Text.lower s

def ofFields (fields : Fields) : Checked Settings :=
  (fun environment isDebug appName appVersion logLevel logFormat corsOrigins showsMetrics chartScript
      chartFallbacks dataPath autoPrint printDelay fetchTimeout chartWait inlinesAssets
      assetConcurrency assetTimeout pageSize margin watermark maxNodes =>
    { environment, isDebug, appName, appVersion, logLevel, logFormat, corsOrigins, showsMetrics,
      chartScript, chartFallbacks, dataPath, autoPrint, printDelay, fetchTimeout, chartWait,
      inlinesAssets, assetConcurrency, assetTimeout, pageSize, margin, watermark,
      maxNodes : Settings })
    <$> optional ["environment"] usual.environment (oneOf Environment.ofName?) fields
    <*> optional ["debug"] usual.isDebug truthValue fields
    <*> optional ["app_name"] usual.appName text fields
    <*> optional ["app_version"] usual.appVersion text fields
    <*> optional ["log_level"] usual.logLevel text fields
    <*> optional ["log_format"] usual.logFormat (oneOf logFormatNamed) fields
    <*> optional ["cors_origins"] usual.corsOrigins (list text) fields
    <*> optional ["prometheus_enabled"] usual.showsMetrics truthValue fields
    <*> optional ["chart_js_cdn_url"] usual.chartScript text fields
    <*> optional ["chart_js_fallback_urls"] usual.chartFallbacks (list text) fields
    <*> optional ["runtime_data_path"] usual.dataPath text fields
    <*> optional ["runtime_auto_print"] usual.autoPrint truthValue fields
    <*> optional ["runtime_print_delay_ms"] usual.printDelay notNegative fields
    <*> optional ["runtime_fetch_timeout_ms"] usual.fetchTimeout notNegative fields
    <*> optional ["runtime_chart_wait_ms"] usual.chartWait notNegative fields
    <*> optional ["asset_inline_enabled"] usual.inlinesAssets truthValue fields
    <*> optional ["asset_fetch_concurrency"] usual.assetConcurrency positive fields
    <*> optional ["asset_fetch_timeout"] usual.assetTimeout aboveZero fields
    <*> optional ["default_page_size"] usual.pageSize (oneOf PageSize.ofName?) fields
    <*> optional ["default_margin_mm"] usual.margin notBelowZero fields
    <*> optional ["watermark_text"] usual.watermark text fields
    <*> optional ["max_tree_nodes"] usual.maxNodes positive fields
where
  usual : Settings := {}

/-- The names of all settings. -/
def names : List String :=
  ["environment", "debug", "app_name", "app_version", "log_level", "log_format", "cors_origins",
    "prometheus_enabled", "chart_js_cdn_url", "chart_js_fallback_urls", "runtime_data_path",
    "runtime_auto_print", "runtime_print_delay_ms", "runtime_fetch_timeout_ms",
    "runtime_chart_wait_ms", "asset_inline_enabled", "asset_fetch_concurrency",
    "asset_fetch_timeout", "default_page_size", "default_margin_mm", "watermark_text",
    "max_tree_nodes"]

/-- Settings that hold lists. -/
def listNames : List String := ["cors_origins", "chart_js_fallback_urls"]

/-- Why settings could not be read. -/
inductive Trouble where
  /-- A list in the environment that is not JSON. -/
  | unreadable (name : String)
  | refused (issues : List Issue)
deriving Repr

/-- What the environment says about a setting, if anything; of several spellings the last one counts. -/
def fromEnvironment (environment : Fields) (name : String) : Except Trouble (List (String × Value)) :=
  match environment.reverse.find? fun entry => Text.lower entry.1 == name with
  | none => .ok []
  | some (_, value) =>
      if listNames.contains name then
        match JsonReader.read value.plain with
        | .ok .null => .ok []
        | .ok list => .ok [(name, list)]
        | .error _ => .error (.unreadable name)
      else .ok [(name, value)]

/-- Given values, then the environment, then the defaults. -/
def read (environment given : Fields) : Except Trouble Settings := do
  let entries ← names.mapM (fromEnvironment environment)
  match ofFields (given ++ entries.flatten) with
  | .valid settings => return settings
  | .invalid issues => throw (.refused issues)

end Settings

end ReportCompiler
