import ReportCompiler.Compile.Diagnostic
import ReportCompiler.Widget.Basic

/-!
Bindings checked against sample data. The paths of an entry are its binding, the markers in its text,
and, for charts, the bindings of title and datasets.
-/

namespace ReportCompiler

open ReportCompiler.Text

namespace Component

/-- The value, where it counts as given. -/
def givenPath (value : Value) : List Value := if value.isPresent then [value] else []

def bindingPaths (props : Fields) : List Value :=
  (givenPath (props.get "binding")).map fun value => .text (trim value.plain)

def markerPaths (value : Value) : List Value :=
  match value with
  | .text s => (Marker.paths s).map .text
  | _ => []

def textPaths (props : Fields) : List Value :=
  if Marker.occursIn (props.get "text") then markerPaths (props.get "text") else []

/-- The markers of a title, which must be text where it is given. -/
def titlePaths (title : Value) : Except Fault (List Value) :=
  match title with
  | .text s => .ok (markerPaths (.text s))
  | value => if value.isPresent then .error .notSearchable else .ok []

/-- The datasets of a chart's bindings; null is no list of datasets. -/
def boundDatasets (bindings : Fields) : Except Fault (List Value) :=
  match bindings.lookup "datasets" with
  | some value => value.items?
  | none => .ok []

def datasetPath (dataset : Value) : Except Fault (List Value) :=
  (dataset.field "binding").map givenPath

def chartPaths (bindings : Fields) : Except Fault (List Value) := do
  let title ← titlePaths (bindings.get "title")
  let datasets ← (← boundDatasets bindings).mapM datasetPath
  return givenPath (bindings.get "primaryBinding") ++ title ++ datasets.flatten

/-- All paths by which the embedded program will look up data for an entry. -/
def paths (component : Component) : Except Fault (List Value) := do
  let ofChart ←
    match component.props.get "bindings" with
    | .object bindings => chartPaths bindings
    | _ => pure []
  return bindingPaths component.props ++ textPaths component.props ++ ofChart

end Component

/-- The paths that find nothing in the data. -/
def unresolvedPaths (data : Value) (id : String) : List Value → Except Fault (List Finding)
  | [] => .ok []
  | path :: rest => do
      let found ← Path.resolveValue path data
      let others ← unresolvedPaths data id rest
      return if found.isNull then .unresolvedBinding path.plain id :: others else others

/-- The bindings of all entries that find nothing in the data, in order. -/
def checkBindings (components : List Component) (data : Value) : Except Fault (List Finding) := do
  let findings ← components.mapM fun component => do
    unresolvedPaths data component.id (← component.paths)
  return findings.flatten

end ReportCompiler
