import ReportCompiler.CommandLine.Compile
import ReportCompiler.Widget.Renderer

/-!
The command line: the commands by name, and what stands before the name of a command.
-/

namespace ReportCompiler

open ReportCompiler.Text

namespace CommandLine

/-- Options that stand before the name of a command. -/
def outerGrammar : Grammar :=
  { parameters := [flag "--version", flag "--help"], isMixed := false }

/-- The grammar of a command without options and arguments. -/
def bareGrammar : Grammar := { parameters := [flag "--help"], isMixed := true }

/-- A command that only tells something. -/
def telling (lines : List String) (arguments : List String) : Except Trouble Outcome := do
  let (given, rest) ← (bareGrammar.read arguments).mapError .usage
  if !given.isEmpty then return { ending := .done }
  else if rest.isEmpty then return { ending := .done, output := lines.map Line.text }
  else throw (.usage (.extraArguments rest))

def yesNo (b : Bool) : String := if b then "True" else "False"

def environmentLines (s : Settings) : List String :=
  ["ReportBuilder v" ++ s.appVersion,
    "Environment: " ++ s.environment.name,
    "Chart.js: " ++ s.chartScript,
    "Runtime data path: " ++ s.dataPath,
    "Auto print: " ++ yesNo s.autoPrint ++ " (delay " ++ toString s.printDelay ++ " ms)",
    "Asset inlining: " ++ yesNo s.inlinesAssets ++ " (concurrency " ++ toString s.assetConcurrency
      ++ ")"]

def commands (e : Exporter) (folder : Folder) :
    List (String × (List String → Except Trouble Outcome)) :=
  [("compile", Compilation.command e folder), ("validate", Validation.command e folder),
    ("widgets", telling Widget.Registry.types),
    ("env-info", telling (environmentLines e.settings))]

def version (s : Settings) : Outcome :=
  { ending := .done, output := [.text ("cli, version " ++ s.appVersion)] }

def dispatch (e : Exporter) (folder : Folder) (arguments : List String) :
    Except Trouble Outcome := do
  let (given, rest) ← (outerGrammar.read arguments).mapError .usage
  match (settled given).head?, rest with
  | some first, _ =>
      return if first.parameter.key == "--version" then version e.settings
        else { ending := .done }
  | none, [] =>
      if arguments.isEmpty then return { ending := .done } else throw (.usage .missingCommand)
  | none, name :: rest =>
      match (commands e folder).lookup name with
      | some command => command rest
      | none => throw (.usage (.unknownCommand name))

/-- Follows a command line. -/
def run (e : Exporter) (folder : Folder) (arguments : List String) : Outcome :=
  .ofExcept (dispatch e folder arguments)

end CommandLine

end ReportCompiler
