import ReportCompiler.Export.Basic
import ReportCompiler.Template.Payload

/-!
An exporter at work: calls one after the other, each at a moment of its own. Arguments are values as they were
sent, and the client may answer a request by all that it was asked before. A call whose arguments cannot be
read ends before anything is fetched or counted.
-/

namespace ReportCompiler

namespace Exporter

section Clients

variable {m : Type → Type} [Monad m] (e : Exporter) (client : Asset.ClientIn m)

/-! ### Exports by any client -/

/-- The template with its images inside, as this client answers for them. -/
def prepareWith (options : ExportOptions) (tree : Tree) : m (Tree × Asset.Report) :=
  if e.inlines options then
    Asset.inlineTree client (Asset.batchSize e.settings.assetConcurrency none) tree
  else return (tree, .empty)

def exportTreeWith (tree : Tree) (data : Value) (options : ExportOptions) : m (Run ExportResult) := do
  let (prepared, report) ← e.prepareWith client options tree
  return e.finish "single" [report] (compile (e.surroundings options data) prepared) data options

/-- Pages with their images inside and the reports on them, made into one document. -/
def finishPages (prepared : List (Page × Tree × Asset.Report)) (data : Value) (options : ExportOptions) :
    Run ExportResult :=
  let inlined := prepared.map fun (page, canvas, _) => { page with canvas }
  e.finish "pages" (prepared.map fun (_, _, report) => report)
    (compilePages (e.surroundings options data) inlined) data options

def exportPagesWith (pages : List Page) (data : Value) (options : ExportOptions) :
    m (Run ExportResult) := do
  let prepared ← pages.mapM fun page => do return (page, ← e.prepareWith client options page.canvas)
  return e.finishPages prepared data options

end Clients

end Exporter

/-! ### Calls -/

inductive Call where
  | exportTree (tree data options : Value)
  | exportPages (pages data options : Value)
  | validate (tree data : Value)
deriving Repr

namespace Call

/-- The name under which a call is counted; validation is not. -/
def kind? : Call → Option String
  | exportTree _ _ _ => some "single"
  | exportPages _ _ _ => some "pages"
  | validate _ _ => none

def arguments : Call → List Value
  | exportTree tree data options => [tree, data, options]
  | exportPages pages data options => [pages, data, options]
  | validate tree data => [tree, data]

end Call

namespace Call

/-- How a call ends. -/
inductive Outcome where
  | exported (result : ExportResult)
  | validated (findings : List Finding)
  /-- A strict export of a template with errors. -/
  | hasErrors (findings : List Finding)
  /-- An argument that is no such payload. -/
  | malformed (issues : List Payload.Issue)
  | fault (fault : Fault)
deriving Repr

namespace Outcome

def ofExport : Except ExportFailure ExportResult → Outcome
  | .ok result => exported result
  | .error (.hasErrors findings) => hasErrors findings
  | .error (.fault problem) => fault problem

def ofChecked {α : Type} : Payload.Checked α → Except Outcome α
  | .valid value => .ok value
  | .invalid issues => .error (malformed issues)

def ofAttempt {α : Type} : Except Fault α → Except Outcome α
  | .ok value => .ok value
  | .error problem => .error (fault problem)

end Outcome

/-! ### Arguments -/

def readTree (tree : Value) : Except Outcome Tree := Outcome.ofChecked (Tree.ofPayload tree)

/-- The first page that cannot be read ends the reading. -/
def readPages (pages : Value) : Except Outcome (List Page) := do
  (← Outcome.ofAttempt pages.items?).mapM fun page => Outcome.ofChecked (Page.ofPayload false page)

/-- Options and what they are for; the options are read first. -/
def readWith {α : Type} (options : Value) (argument : Except Outcome α) :
    Except Outcome (ExportOptions × α) := do
  let wanted ← Outcome.ofChecked (ExportOptions.ofPayload options)
  return (wanted, ← argument)

end Call

/-- A call that has ended, with all that it counted. -/
structure Performed where
  call : Call
  outcome : Call.Outcome
  events : List Metrics.Event

namespace Performed

def ofRun (call : Call) (run : Run ExportResult) : Performed :=
  { call, outcome := .ofExport run.outcome, events := run.events }

def uncounted (call : Call) (outcome : Call.Outcome) : Performed := { call, outcome, events := [] }

end Performed

namespace Exporter

variable {m : Type → Type} [Monad m] (e : Exporter) (client : Asset.ClientIn m)

def perform (call : Call) : m Performed :=
  match call with
  | .exportTree tree data options =>
      match Call.readWith options (Call.readTree tree) with
      | .ok (options, tree) => return .ofRun call (← e.exportTreeWith client tree data options)
      | .error outcome => return .uncounted call outcome
  | .exportPages pages data options =>
      match Call.readWith options (Call.readPages pages) with
      | .ok (options, pages) => return .ofRun call (← e.exportPagesWith client pages data options)
      | .error outcome => return .uncounted call outcome
  | .validate tree data =>
      match Call.readTree tree with
      | .ok tree =>
          match e.validate tree data with
          | .ok findings => return .uncounted call (.validated findings)
          | .error problem => return .uncounted call (.fault problem)
      | .error outcome => return .uncounted call outcome

/-! ### Calls one after the other -/

/-- A call, when it is made and how long it takes. -/
structure Turn where
  call : Call
  now : Moment
  duration : Number

/-- All calls of a session; settings and client stay the same. -/
def session (turns : List Turn) : m (List Performed) :=
  turns.mapM fun turn => { e with now := turn.now, duration := turn.duration }.perform client turn.call

end Exporter

end ReportCompiler
