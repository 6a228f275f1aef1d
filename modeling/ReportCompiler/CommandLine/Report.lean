import ReportCompiler.CommandLine.Folder
import ReportCompiler.CommandLine.Grammar
import ReportCompiler.Export.Basic
import ReportCompiler.Value.Reader

/-!
What a command tells its user: lines on its output and on its error output, the files that it writes, and
how it ends.
-/

namespace ReportCompiler

open ReportCompiler.Text

namespace CommandLine

inductive Line where
  | text (s : String)
  /-- A problem of the template, with the widget that it is about. -/
  | finding (finding : Finding)
  /-- A problem of the template as the cause of a failure. -/
  | cause (finding : Finding)
  | wrote (path : String) (widgets : Nat)
deriving Repr

def severityLabel (severity : Severity) : String :=
  String.ofList (severity.name.toList.map Char.toUpper)

def location (finding : Finding) : String :=
  match finding.widget? with
  | some id => if id == "" then "" else " [" ++ id ++ "]"
  | none => ""

/-- A line as it is shown, with the time that was needed, in milliseconds. -/
def Line.write (time : String) : Line → String
  | text s => s
  | finding f => severityLabel f.severity ++ " " ++ f.code ++ location f ++ ": " ++ f.message
  | cause f => "  " ++ severityLabel f.severity ++ " " ++ f.code ++ ": " ++ f.message
  | wrote path widgets =>
      "✓ Wrote " ++ path ++ " (" ++ toString widgets ++ " widgets, " ++ time ++ " ms)"

/-- What ends a command from outside. -/
inductive Crash where
  | refused (issues : List Payload.Issue)
  | fault (fault : Fault)
deriving Repr

def Crash.message : Crash → String
  | refused issues => join "\n" (issues.map fun issue =>
      join "." issue.place ++ ": " ++ issue.problem.code)
  | fault f => f.message

inductive Ending where
  | done
  | failed
  | misused (error : UsageError)
  | crashed (crash : Crash)
deriving Repr

def Ending.code : Ending → Nat
  | done => 0
  | failed => 1
  | misused _ => 2
  | crashed _ => 1

structure Outcome where
  ending : Ending
  output : List Line := []
  errors : List Line := []
  /-- Paths and what is written there. -/
  written : List (String × String) := []
deriving Repr

/-- Why a command cannot be carried out. -/
inductive Trouble where
  | usage (error : UsageError)
  | crash (crash : Crash)
deriving Repr

def Outcome.ofTrouble : Trouble → Outcome
  | .usage error => { ending := .misused error, errors := [.text ("Error: " ++ error.message)] }
  | .crash crash => { ending := .crashed crash }

def Outcome.ofExcept (outcome : Except Trouble Outcome) : Outcome :=
  match outcome with
  | .ok outcome => outcome
  | .error trouble => .ofTrouble trouble

/-- What a payload holds, or a crash on the issues with it. -/
def accepted {α : Type} (outcome : Payload.Checked α) : Except Trouble α :=
  outcome.toExcept.mapError fun issues => .crash (.refused issues)

def withoutFault {α : Type} (outcome : Except Fault α) : Except Trouble α :=
  outcome.mapError fun fault => .crash (.fault fault)

/-! ### Files -/

/-- A path that leads to a file. -/
def existing (folder : Folder) (names : List String) (path : String) : Except Trouble String :=
  match folder.find path with
  | .file _ => .ok path
  | .directory => .error (.usage (.badValue names (.isDirectory path)))
  | .nothing => .error (.usage (.badValue names (.noSuchFile path)))

/-- A path that leads to a file or nowhere. -/
def writable (folder : Folder) (names : List String) (path : String) : Except Trouble String :=
  match folder.find path with
  | .directory => .error (.usage (.badValue names (.isDirectory path)))
  | _ => .ok path

def reasonOf (error : JsonError) : String := "unexpected at character " ++ toString error.offset

/-- The JSON in a text. Text that is no JSON is a misuse, but an integer of too many digits ends the reading where
it stands. -/
def readJson (path text : String) : Except Trouble Value :=
  match JsonReader.longInteger? text with
  | some n => .error (.crash (.fault (.badNumber (toString n))))
  | none => (JsonReader.read text).mapError fun error => .usage (.invalidJson path (reasonOf error))

/-- The JSON in a file; null where no file is named. -/
def loaded (folder : Folder) : Option String → Except Trouble Value
  | none => .ok .null
  | some path =>
      match folder.find path with
      | .file text => readJson path text
      | _ => .error (.crash (.fault (.noSuchDirectory path)))

end CommandLine

end ReportCompiler
