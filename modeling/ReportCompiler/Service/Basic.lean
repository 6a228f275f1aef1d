import ReportCompiler.Export.Basic
import ReportCompiler.Service.Request
import ReportCompiler.Text.Word
import ReportCompiler.Widget.Renderer

/-!
The service: every request is answered, and every answer but those about the metrics themselves is
counted. Errors in what a request carries, in a template and in the service have a status of their own.
-/

namespace ReportCompiler

open ReportCompiler.Text

namespace Service

inductive Body where
  | html (text : String)
  | json (value : Value)
  | metrics
  | empty
deriving Repr

structure Response where
  status : Int
  /-- Beside the type of the body. -/
  headers : List (String × String) := []
  body : Body
deriving Repr

def Body.type? : Body → Option String
  | html _ => some "text/html; charset=utf-8"
  | json _ => some "application/json"
  | metrics => some "text/plain; version=0.0.4; charset=utf-8"
  | empty => none

/-- A response, what was counted before it, and the addresses requested for it. -/
structure Exchange where
  response : Response
  events : List Metrics.Event := []
  requested : List String := []
deriving Repr

def Response.ofReport (report : ErrorReport) : Response :=
  { status := report.status, body := .json (.object report.fields) }

/-- A fault of the service itself, about which callers learn nothing. -/
def internalError : Response :=
  { status := 500
    body := .json (.object [("error", .text "INTERNAL_ERROR"),
      ("message", .text "An unexpected error occurred")]) }

def ofIssues (issues : List Payload.Issue) : Response :=
  let detail := issues.map fun issue =>
    Value.object [("loc", .list (issue.place.map .text)), ("type", .text issue.problem.code)]
  { status := 422, body := .json (.object [("detail", .list detail)]) }

/-- A refusal without further explanation. -/
def refusal (status : Int) (reason : String) : Response :=
  { status, body := .json (.object [("detail", .text reason)]) }

/-! ### Downloads -/

def isSafe (c : Char) : Bool := isWord c || isBlank c || c == '.' || c == '-'

/-- A title as the name of a file, without the characters that a name cannot hold. -/
def fileName (title : String) : String :=
  let name := trim (String.ofList (title.toList.map fun c => if isSafe c then c else '_'))
  if name == "" then "Report" else name

def disposition (title : String) : String :=
  "attachment; filename=\"" ++ fileName title ++ ".html\""

/-- Headers are written in Latin-1. -/
def isLatin1 (text : String) : Bool := text.toList.all fun c => c.toNat < 256

def download (title : String) (result : ExportResult) : Except Fault Response :=
  if isLatin1 (disposition title) then
    .ok {
      status := 200
      headers := [("content-disposition", disposition title),
        ("x-report-components", toString result.widgetCount),
        ("x-report-warnings", toString (Severity.warning.select result.findings).length)]
      body := .html result.html }
  else .error .notLatin1

/-! ### Endpoints -/

def tooLarge? (settings : Settings) (count : Nat) : Option ErrorReport :=
  if settings.maxNodes < count then
    let message := "Template has " ++ toString count ++ " widgets; at most "
      ++ toString settings.maxNodes ++ " are allowed"
    some (.invalid message (.text "tree") [("node_count", .int count)])
  else none

/-- An answer that may be a fault of the service, with what was counted and requested for it. -/
structure Work where
  answer : Except Fault Response
  events : List Metrics.Event := []
  requested : List String := []

namespace Work

def answered (response : Response) : Work := { answer := .ok response }

def reported (report : ErrorReport) : Work := answered (.ofReport report)

def ofExport (title : String) (run : Run ExportResult) : Work :=
  let answer := match run.outcome with
    | .ok result => download title result
    | .error (.hasErrors findings) => .ok (.ofReport (Finding.report findings))
    | .error (.fault fault) => .error fault
  { answer, events := run.events, requested := run.requested }

end Work

def exportTree (e : Exporter) (content : Content) : Work :=
  match content.read TreeExport.read with
  | .invalid issues => .answered (ofIssues issues)
  | .valid wanted =>
      if wanted.tree.nodes.isEmpty then
        .reported (.invalid "Template has no widgets" (.text "tree") [])
      else
        match tooLarge? e.settings wanted.tree.nodes.length with
        | some report => .reported report
        | none =>
            .ofExport wanted.options.filename (e.exportTree wanted.tree wanted.data wanted.options)

def exportPages (e : Exporter) (content : Content) : Work :=
  match content.read PagesExport.read with
  | .invalid issues => .answered (ofIssues issues)
  | .valid wanted =>
      if wanted.pages.isEmpty then
        .reported (.invalid "Template has no pages" (.text "pages") [])
      else
        let size := (wanted.pages.map fun page => page.canvas.nodes.length).foldr (· + ·) 0
        match tooLarge? e.settings size with
        | some report => .reported report
        | none =>
            .ofExport wanted.options.filename
              (e.exportPages wanted.pages wanted.data wanted.options)

def validationValue (findings : List Finding) : Value :=
  let errors := Severity.error.select findings
  .object [("valid", .bool errors.isEmpty), ("error_count", .int errors.length),
    ("warning_count", .int (Severity.warning.select findings).length),
    ("diagnostics", .list (findings.map Finding.value))]

def validate (e : Exporter) (content : Content) : Work :=
  match content.read Validation.read with
  | .invalid issues => .answered (ofIssues issues)
  | .valid wanted =>
      match tooLarge? e.settings wanted.tree.nodes.length with
      | some report => .reported report
      | none =>
          { answer := (e.validate wanted.tree wanted.data).map fun findings =>
              { status := 200, body := .json (validationValue findings) } }

def widgets : Response :=
  { status := 200
    body := .json (.object [("widgets", .list (Widget.Registry.types.map .text))]) }

def health (settings : Settings) : Response :=
  { status := 200
    body := .json (.object [("status", .text "ok"), ("version", .text settings.appVersion),
      ("environment", .text settings.environment.name)]) }

def metrics (settings : Settings) : Response :=
  if settings.showsMetrics then { status := 200, body := .metrics }
  else { status := 404, body := .json (.object [("error", .text "Metrics not enabled")]) }

/-! ### Routes -/

structure Route where
  method : String
  path : String
  answer : Exporter → Content → Work

def metricsPath : String := "/metrics"

def routes : List Route :=
  [{ method := "GET", path := "/health", answer := fun e _ => .answered (health e.settings) },
    { method := "GET", path := metricsPath, answer := fun e _ => .answered (metrics e.settings) },
    { method := "POST", path := "/api/v1/export/", answer := exportTree },
    { method := "POST", path := "/api/v1/export/pages", answer := exportPages },
    { method := "POST", path := "/api/v1/export/validate", answer := validate },
    { method := "GET", path := "/api/v1/export/widgets", answer := fun _ _ => .answered widgets }]

/-- The path with a slash at its end taken away, or put there. -/
def withOtherEnd (path : String) : String :=
  if endsWith path "/" then
    String.ofList (path.toList.reverse.dropWhile fun c => c == '/').reverse
  else path ++ "/"

/-- A path that nothing answers leads on to its other form where that is answered. -/
def unrouted (path : String) : Response :=
  if path != "/" && routes.any (fun route => route.path == withOtherEnd path) then
    { status := 307, body := .empty }
  else refusal 404 "Not Found"

def route (e : Exporter) (request : Request) (path : String) : Work :=
  match routes.filter fun route => route.path == path with
  | [] => .answered (unrouted path)
  | found =>
      match found.find? fun route => route.method == request.method with
      | some route => route.answer e request.content
      | none => .answered (refusal 405 "Method Not Allowed")

/-- Answers a request. A fault of the service is answered, but not counted as a request. -/
def exchange (e : Exporter) (request : Request) : Exchange :=
  let path := beforeFirst '?' request.path
  let work := route e request path
  match work.answer with
  | .error _ => { response := internalError, events := work.events, requested := work.requested }
  | .ok response =>
      let counted := if path == metricsPath then []
        else [.request request.method path (toString response.status) e.duration]
      { response, events := work.events ++ counted, requested := work.requested }

end Service

end ReportCompiler
