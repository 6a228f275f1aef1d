import ReportCompiler.CommandLine.Basic
import ReportCompiler.Proofs.CommandLine.Options
import ReportCompiler.Proofs.Export.Session

/-!
How the command that writes a document ends. What it is given on the command line and in its files makes it crash in
a few ways, which are told apart here; otherwise it writes a document, reports the errors of the template, or tells
how it was misused.
-/

namespace ReportCompiler

open ReportCompiler.Payload
open ReportCompiler.Text

/-! ### Faults of an export -/

namespace Exporter

variable (e : Exporter)

end Exporter

namespace CommandLine

/-! ### Crashes while a document is compiled -/

def Outcome.HasCrashed (outcome : Outcome) : Prop := ∃ crash, outcome.ending = .crashed crash

namespace Compilation

/-- What comes of an export. -/
def ended (e : Exporter) (folder : Folder) (c : Compilation) (tree : Tree) (data : Value) : Except Trouble Outcome :=
  match (e.exportTree tree data (c.options e.settings)).outcome with
  | .ok result => .ok (written folder (c.target (c.options e.settings)) result)
  | .error (.fault fault) => .error (.crash (.fault fault))
  | .error (.hasErrors findings) =>
      .ok
        { ending := .failed
          errors := Line.text ("✗ " ++ (Finding.report findings).message) :: findings.map Line.cause }

variable (e : Exporter) (folder : Folder) (c : Compilation)

/-- What a command line holds that does not ask for help. -/
structure Reads (arguments : List String) (given : List Given) (rest : List String) : Prop where
  read : grammar.read arguments = .ok (given, rest)
  plain : ∀ g ∈ given, g.parameter.key ≠ "--help"

/-- How the command should end: with help, a misuse that is told, errors of the template that are told, or a document
that is written. Only the last one writes, and it writes one file. -/
inductive Handles (arguments : List String) : Outcome → Prop where
  | helped (given : List Given) (rest : List String) (read : grammar.read arguments = .ok (given, rest))
      (asked : ∃ g ∈ given, g.parameter.key = "--help") : Handles arguments { ending := .done }
  | misused (error : UsageError) : Handles arguments
      { ending := .misused error, errors := [.text ("Error: " ++ error.message)] }
  | refused (findings : List Finding) (severe : ∃ finding ∈ findings, finding.severity = .error) :
      Handles arguments
        { ending := .failed
          errors := .text ("✗ " ++ (Finding.report findings).message) :: findings.map .cause }
  | wrote (path : String) (result : ExportResult) : Handles arguments
      { ending := .done
        output := [.wrote path result.widgetCount]
        errors := result.findings.map .finding
        written := [(path, result.html)] }

/-- It is handled, or has crashed before anything was written. -/
def Ends (arguments : List String) (outcome : Outcome) : Prop :=
  Handles arguments outcome ∨ outcome.HasCrashed ∧ outcome.written = []

end Compilation

end CommandLine

end ReportCompiler
