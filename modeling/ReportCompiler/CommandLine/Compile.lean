import ReportCompiler.CommandLine.Report
import ReportCompiler.Number.Reader
import ReportCompiler.Template.Payload

/-!
The commands that compile a template from a file: one writes the document, the other one only tells the
problems of the template.
-/

namespace ReportCompiler

open ReportCompiler.Text

namespace CommandLine

def flag (name : String) : Parameter := { names := [name], takesValue := false }

def option (names : List String) : Parameter := { names, takesValue := true }

/-- The name of the argument that names the template. -/
def treeArgument : String := "TREE_JSON"

/-- The template that a command is about, once all options have been read. -/
def treeOf (folder : Folder) (arguments : List String) : Except Trouble String := do
  match arguments with
  | [] => throw (.usage (.argumentMissing treeArgument))
  | tree :: others =>
      let tree ← existing folder [treeArgument] tree
      if others.isEmpty then return tree else throw (.usage (.extraArguments others))

/-! ### Writing a document -/

/-- What a document is compiled from, and how. -/
structure Compilation where
  tree : String := ""
  data : Option String := none
  output : Option String := none
  title : String := ""
  pageSize : PageSize
  margins : Option (Sides Number) := none
  embedsData : Bool := false
  hasWatermark : Bool := false
  keepsImages : Bool := false
  showsData : Bool := false
  opensNoPrint : Bool := false
  isStrict : Bool := false
deriving Repr

namespace Compilation

def grammar : Grammar :=
  { parameters :=
      [option ["--data"], option ["--output", "-o"], option ["--filename"], option ["--page-size"],
        option ["--margins"], flag "--embed-data", flag "--watermark", flag "--no-inline-assets",
        flag "--preview", flag "--no-auto-print", flag "--strict", flag "--help"],
    isMixed := true }

/-- One number for all sides or one for each, in millimetres. -/
def marginsOf (names : List String) (text : String) : Except Trouble (Sides Number) := do
  let parts := (Text.split ',' text).map trim
  match parts.mapM Reader.double? with
  | none => throw (.usage (.badValue names .marginsNotNumbers))
  | some numbers =>
      let sides ← match numbers with
        | [all] => pure [all, all, all, all]
        | [_, _, _, _] => pure numbers
        | _ => throw (.usage (.badValue names .wrongNumberOfMargins))
      accepted (ExportOptions.marginsOf (Sides.names.toList.zip (sides.map Value.double)))

def pageSizeOf (names : List String) (name : String) : Except Trouble PageSize :=
  match PageSize.ofName? name with
  | some size => .ok size
  | none =>
      .error (.usage (.badValue names (.notListed name (PageSize.all.map PageSize.name))))

/-- Follows one option. -/
def apply (folder : Folder) (c : Compilation) (given : Given) : Except Trouble Compilation := do
  let names := given.parameter.names
  let value := given.value.getD ""
  match given.parameter.key with
  | "--data" => return { c with data := some (← existing folder names value) }
  | "--output" => return { c with output := some (← writable folder names value) }
  | "--filename" => return { c with title := value }
  | "--page-size" => return { c with pageSize := ← pageSizeOf names value }
  | "--margins" => return { c with margins := some (← marginsOf names value) }
  | "--embed-data" => return { c with embedsData := true }
  | "--watermark" => return { c with hasWatermark := true }
  | "--no-inline-assets" => return { c with keepsImages := true }
  | "--preview" => return { c with showsData := true }
  | "--no-auto-print" => return { c with opensNoPrint := true }
  | "--strict" => return { c with isStrict := true }
  | _ => return c

/-- A template without a title is called like its file. -/
def options (settings : Settings) (c : Compilation) : ExportOptions :=
  { filename := ExportOptions.titled (if c.title == "" then FileName.stem c.tree else c.title)
    pageSize := c.pageSize
    margins := c.margins.getD (.uniform (.double settings.margin))
    embedsData := c.embedsData
    hasWatermark := c.hasWatermark
    inlinesAssets := if c.keepsImages then some false else none
    showsData := c.showsData
    autoPrint := if c.opensNoPrint then some false else none
    isStrict := c.isStrict }

/-- Where the document goes; by default it is called like its title. -/
def target (c : Compilation) (options : ExportOptions) : String :=
  let byTitle := options.filename ++ ".html"
  FileName.normalized (match c.output with
    | some path => if path == "" then byTitle else path
    | none => byTitle)

/-- A document that was compiled, written if nothing is in its way. -/
def written (folder : Folder) (target : String) (result : ExportResult) : Outcome :=
  let errors := result.findings.map Line.finding
  match folder.obstacle? target with
  | some fault => { ending := .crashed (.fault fault), errors }
  | none =>
      { ending := .done, output := [.wrote target result.widgetCount], errors,
        written := [(target, result.html)] }

def run (e : Exporter) (folder : Folder) (c : Compilation) : Except Trouble Outcome := do
  let payload ← loaded folder (some c.tree)
  let data ← loaded folder c.data
  let options := c.options e.settings
  let tree ← accepted (Tree.ofPayload payload)
  match (e.exportTree tree data options).outcome with
  | .ok result => return written folder (c.target options) result
  | .error (.fault fault) => throw (.crash (.fault fault))
  | .error (.hasErrors findings) =>
      let summary := Line.text ("✗ " ++ (Finding.report findings).message)
      return { ending := .failed, errors := summary :: findings.map Line.cause }

/-- The command that writes a document. -/
def command (e : Exporter) (folder : Folder) (arguments : List String) :
    Except Trouble Outcome := do
  let (given, rest) ← (grammar.read arguments).mapError .usage
  if given.any fun g => g.parameter.key == "--help" then return { ending := .done }
  let start : Compilation := { pageSize := e.settings.pageSize }
  let c ← (settled given).foldlM (apply folder) start
  run e folder { c with tree := ← treeOf folder rest }

end Compilation

/-! ### Telling the problems -/

namespace Validation

def grammar : Grammar :=
  { parameters := [option ["--data"], flag "--help"], isMixed := true }

def summary (findings : List Finding) : Outcome :=
  let lines := findings.map Line.finding
  let errors := (Severity.error.select findings).length
  if errors = 0 then
    let verdict := "✓ Template is valid (" ++ toString findings.length ++ " diagnostics)"
    { ending := .done, output := [.text verdict], errors := lines }
  else
    let verdict := "✗ " ++ toString errors ++ " errors, "
      ++ toString (findings.length - errors) ++ " other diagnostics"
    { ending := .failed, errors := lines ++ [.text verdict] }

/-- The command that tells the problems of a template. -/
def command (e : Exporter) (folder : Folder) (arguments : List String) :
    Except Trouble Outcome := do
  let (given, rest) ← (grammar.read arguments).mapError .usage
  if given.any fun g => g.parameter.key == "--help" then return { ending := .done }
  let data ← (settled given).foldlM (fun _ g =>
    (existing folder g.parameter.names (g.value.getD "")).map some) none
  let tree ← treeOf folder rest
  let payload ← loaded folder (some tree)
  let sample ← loaded folder data
  let template ← accepted (Tree.ofPayload payload)
  return summary (← withoutFault (e.validate template sample))

end Validation

end CommandLine

end ReportCompiler
