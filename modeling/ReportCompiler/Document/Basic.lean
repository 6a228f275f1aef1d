import ReportCompiler.Document.Program

/-!
The finished document: styles, the chart library, the markup of the widgets, an optional watermark, the
configuration and the embedded program. Text that is not markup is escaped on its way in.
-/

namespace ReportCompiler

open ReportCompiler.Text

namespace Document

def escapeChar (c : Char) : String :=
  if c == '&' then "&amp;"
  else if c == '<' then "&lt;"
  else if c == '>' then "&gt;"
  else if c == '"' then "&#34;"
  else if c == '\'' then "&#39;"
  else String.singleton c

def escape (text : String) : String := expand escapeChar text

def baseStyles : List String :=
  ["    * \x7b",
    "      box-sizing: border-box;",
    "      margin: 0;",
    "      padding: 0;",
    "    \x7d",
    "",
    "    body \x7b",
    "      font-family: -apple-system, BlinkMacSystemFont, 'Segoe UI', Roboto, 'Helvetica Neue', Arial, sans-serif;",
    "      font-size: 14px;",
    "      line-height: 1.5;",
    "      color: #000;",
    "      background: #fff;",
    "    \x7d",
    "",
    "    #report \x7b",
    "      position: relative;",
    "      width: 100%;",
    "      min-height: 100vh;",
    "    \x7d",
    "",
    "    .report-page \x7b",
    "      position: relative;",
    "      page-break-inside: avoid;",
    "    \x7d",
    "",
    "    .page-break \x7b",
    "      page-break-after: always;",
    "      break-after: page;",
    "      height: 0;",
    "      margin: 0;",
    "      padding: 0;",
    "    \x7d",
    "",
    "    [data-condition-hidden] \x7b",
    "      display: none !important;",
    "    \x7d"]

/-! ### The chart library -/

/-- The places that the chart library is loaded from, one after the other until one works; none where
only the first place is to be tried. -/
def chartPlaces (options : ExportOptions) (settings : Settings) : List String :=
  if options.hasChartFallbacks then settings.chartScript :: settings.chartFallbacks else []

def chartLoader (places : List String) : List String :=
  ["<script>",
    "(function () \x7b",
    "  var cdnUrls = " ++ (textList places).json .embedded ++ ";",
    "  function loadScript(url) \x7b",
    "    var script = document.createElement('script');",
    "    script.src = url;",
    "    script.onload = function () \x7b",
    "      window.dispatchEvent(new Event('chartjs-loaded'));",
    "    \x7d;",
    "    script.onerror = function () \x7b",
    "      console.warn('[ReportRuntime] Failed to load Chart.js from: ' + url);",
    "      if (cdnUrls.length > 0) \x7b",
    "        loadScript(cdnUrls.shift());",
    "      \x7d",
    "    \x7d;",
    "    document.head.appendChild(script);",
    "  \x7d",
    "  loadScript(cdnUrls.shift());",
    "\x7d)();",
    "</script>"]

def chartScript (options : ExportOptions) (settings : Settings) : String :=
  match chartPlaces options settings with
  | [] => "<script src=\"" ++ escape settings.chartScript ++ "\"></script>"
  | places => join "\n" (chartLoader places)

/-! ### The watermark -/

def watermarkText (options : ExportOptions) (settings : Settings) : String :=
  if options.hasWatermark then settings.watermark else ""

def watermark (text : String) : List String :=
  ["<div id=\"watermark\" style=\"position: fixed; bottom: 20px; right: 20px; padding: 8px 16px; background: rgba(0,0,0,0.7); color: white; font-size: 12px; font-family: -apple-system, BlinkMacSystemFont, 'Segoe UI', Roboto, sans-serif; border-radius: 4px; z-index: 9999; pointer-events: none;\">",
    "  " ++ escape text,
    "</div>",
    "<style>",
    "@media print \x7b",
    "  #watermark \x7b",
    "    position: fixed;",
    "    bottom: 10px;",
    "    right: 10px;",
    "    font-size: 10px;",
    "    background: rgba(200,200,200,0.3);",
    "    color: #666;",
    "  \x7d",
    "\x7d",
    "</style>"]

def watermarkLines (text : String) : List String :=
  if text == "" then [""] else [""] ++ watermark text ++ [""]

/-! ### The document -/

def head (options : ExportOptions) (settings : Settings) : List String :=
  ["<!DOCTYPE html>",
    "<html lang=\"en\">",
    "<head>",
    "  <meta charset=\"UTF-8\">",
    "  <meta name=\"viewport\" content=\"width=device-width, initial-scale=1.0\">",
    "  <title>" ++ escape options.filename ++ "</title>",
    "",
    "  <style>"]
  ++ baseStyles
  ++ ["",
    "    " ++ options.pageSize.rules (options.margins.map .number),
    "  </style>",
    "",
    "  " ++ chartScript options settings,
    "</head>"]

/-- The opening tag of the element that holds the configuration. -/
def configTag : String := "<script type=\"application/json\" id=\"" ++ configId ++ "\">"

/-- The document around the markup of a template's body and its configuration in JSON. -/
def page (body configText : String) (options : ExportOptions) (settings : Settings) : String :=
  join "\n"
    (head options settings
      ++ ["<body>", "  <div id=\"report\">", body, "  </div>"]
      ++ watermarkLines (watermarkText options settings)
      ++ ["  " ++ configTag ++ configText ++ "</script>", "", "  <script>", Program.text,
        "  </script>", "</body>", "</html>", ""])

/-- The document for a compiled template. Sample data with a date in it cannot be embedded. -/
def assemble (body : String) (components : List Component) (data : Value) (options : ExportOptions)
    (settings : Settings) : Except Fault String := do
  let configText ← (Value.object (config components data options settings)).embeddedJson
  return page body configText options settings

end Document

end ReportCompiler
