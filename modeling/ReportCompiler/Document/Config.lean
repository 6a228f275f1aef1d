import ReportCompiler.Export.Options
import ReportCompiler.Settings.Basic
import ReportCompiler.Value.Temporal
import ReportCompiler.Widget.Chart
import ReportCompiler.Widget.Status

/-!
What the embedded program is given: constants that it shares with the widgets, and, as JSON in the
document, the entries of the widgets, the sample data if it is wanted, and how to run.
-/

namespace ReportCompiler

open ReportCompiler.Widget

namespace Document

/-- The id of the element that holds the configuration. -/
def configId : String := "report-runtime-config"

def paletteFields (palette : Status.Palette) : Fields :=
  [("bgColor", .text palette.background), ("borderColor", .text palette.border),
    ("textColor", .text palette.text), ("icon", .text palette.icon),
    ("label", .text palette.label)]

def statusStyles : Value :=
  .object (Status.all.map fun status => (status.name, .object (paletteFields status.palette)))

def textList (texts : List String) : Value := .list (texts.map .text)

/-- Constants of the embedded program. -/
def constants : Fields :=
  [("config_element_id", .text configId),
    ("status_styles", statusStyles),
    ("date_formats", .object (DatePattern.named.map fun entry => (entry.1, .text entry.2))),
    ("month_names", textList DatePattern.monthNames),
    ("day_names", textList DatePattern.dayNames),
    ("date_token_pattern", .text DatePattern.alternation),
    ("chart_colors", textList Chart.colors),
    ("default_data_points", .text Chart.defaultPoints),
    ("gauge_stroke_width", .int Gauge.strokeWidth),
    ("gauge_arc_fraction", .double Gauge.arcFraction)]

/-- How to run: what the options leave open is taken from the settings. -/
def runFields (options : ExportOptions) (settings : Settings) : Fields :=
  [("pageSize", .text options.pageSize.name),
    ("margins", .object (Sides.names.toList.zip (options.margins.toList.map .number))),
    ("autoPrint", .bool (options.autoPrint.getD settings.autoPrint)),
    ("printDelay", .int (options.printDelay.getD settings.printDelay)),
    ("dataPath", .text (options.dataPath.getD settings.dataPath)),
    ("fetchTimeout", .int (options.fetchTimeout.getD settings.fetchTimeout)),
    ("chartWaitTimeout", .int settings.chartWait)]

/-- The whole configuration. Sample data is part of it only where the options ask for it. -/
def config (components : List Component) (data : Value) (options : ExportOptions)
    (settings : Settings) : Fields :=
  [("templateConfig", .object (runFields options settings)),
    ("components", .list (components.map Component.value)),
    ("sampleData", if options.embedsData then data else .null)]

end Document

end ReportCompiler
