import ReportCompiler.Condition.Evaluation
import ReportCompiler.Preview.Series
import ReportCompiler.Widget.Status

/-!
Sample data filled into the settings of a widget. A path that leads nowhere leaves the settings as they
are, so that the widget shows what it shows without data.
-/

namespace ReportCompiler

open ReportCompiler.Text

namespace Preview

/-- New settings, or none where the settings stay as they are. -/
abbrev Change := Option Fields

/-- The value that a widget is bound to; null where it is bound to none. -/
def boundValue (props : Fields) (data : Value) : Except Fault Value :=
  Path.resolve (Widget.bindingText props) data

def bindText (props : Fields) (data : Value) : Except Fault Change := do
  if Widget.hasBinding props then
    match ← boundValue props data with
    | .null => return none
    | value => return some (props.set "text" (.text value.display))
  match props.get "text" with
  | .text s =>
      if Marker.occursIn (.text s) then
        return some (props.set "text" (.text (← Marker.interpolate s data)))
      return none
  | _ => return none

def bindTable (props : Fields) (data : Value) : Except Fault Change := do
  match ← boundValue props data with
  | .list rows => return some (props.set "data" (.list rows))
  | _ => return none

def bindBulletList (props : Fields) (data : Value) : Except Fault Change := do
  match ← boundValue props data with
  | .null => return none
  | .list items =>
      return some (props.set "items" (.list (items.map fun item => .text item.display)))
  | value => return some (props.set "items" (.text value.display))

def bindIndicator (props : Fields) (data : Value) : Except Fault Change := do
  match ← boundValue props data with
  | .null => return none
  | value => return some (props.set "status" (.text (Widget.Status.ofValue value).name))

def bindMeasure (props : Fields) (data : Value) : Except Fault Change := do
  return (← boundValue props data).number?.map fun n => props.set "value" (.number n)

def bindDate (props : Fields) (data : Value) : Except Fault Change := do
  match ← boundValue props data with
  | .null => return none
  | value => return some (props.set "value" value)

/-! ### Charts -/

def boundTitle (props : Fields) (data : Value) : Except Fault Fields :=
  match props.get "title" with
  | .text s =>
      if Marker.occursIn (.text s) then do
        return props.set "title" (.text (← Marker.interpolate s data))
      else .ok props
  | _ => .ok props

/-- The series that a dataset is bound to. -/
def datasetSeries (own : Fields) (data : Value) : Except Fault (Option Series) := do
  let binding := own.get "binding"
  if binding.isPresent then Series.ofValue? (← Path.resolveValue binding data) else return none

/-- Later labels replace earlier ones, but an empty list of labels replaces nothing. -/
def laterLabels (earlier : List Value) (series : Series) : List Value :=
  match series.labels with
  | some (first :: rest) => first :: rest
  | _ => earlier

/-- A dataset with the points of its series, and the labels so far. -/
def bindDataset (data : Value) (labels : List Value) (dataset : Value) :
    Except Fault (Value × List Value) := do
  let own ← dataset.fields?
  match ← datasetSeries own data with
  | some series =>
      return (.object (own.set "dataPoints" (.text series.pointsText)), laterLabels labels series)
  | none => return (dataset, labels)

def bindDatasets (data : Value) : List Value → List Value → Except Fault (List Value × List Value)
  | labels, [] => .ok ([], labels)
  | labels, dataset :: rest => do
      let (bound, labels) ← bindDataset data labels dataset
      let (others, labels) ← bindDatasets data labels rest
      return (bound :: others, labels)

def withLabels (labels : List Value) (props : Fields) : Fields :=
  if labels.isEmpty then props
  else props.set "labels" (.list (labels.map fun label => .text label.display))

/-- The datasets of a chart, or the chart's own series where it has none. -/
def bindChart (props : Fields) (data : Value) : Except Fault Fields := do
  let titled ← boundTitle props data
  let given := props.get "datasets"
  if given.isPresent then
    let (bound, labels) ← bindDatasets data [] (← given.items?)
    return withLabels labels (titled.set "datasets" (.list bound))
  match ← Series.ofValue? (← boundValue props data) with
  | some series =>
      return withLabels (laterLabels [] series) (titled.set "dataPoints" (.text series.pointsText))
  | none => return titled

/-! ### All widgets -/

def bindKind (props : Fields) (data : Value) : Widget.Kind → Except Fault Change
  | .text => bindText props data
  | .table => bindTable props data
  | .bulletList => bindBulletList props data
  | .indicator => bindIndicator props data
  | .gauge => bindMeasure props data
  | .progressBar => bindMeasure props data
  | .dateTime => bindDate props data
  | .chart => (bindChart props data).map some
  | _ => .ok none

/-- Whether the condition of a widget fails on the data. -/
def isRefused (props : Fields) (data : Value) : Except Fault Bool :=
  match Widget.condition? props with
  | some condition => (Condition.isMet (.text condition) data).map (!·)
  | none => .ok false

/-- The settings of a widget with data filled in and with the mark of a condition that does not hold. -/
def bind (kind : Widget.Kind) (props : Fields) (data : Value) : Except Fault Change := do
  if data.isNull then return none
  let change ← bindKind props data kind
  if ← isRefused props data then
    return some ((change.getD props).set Widget.hiddenByCondition (.bool true))
  return change

/-- The settings after binding, changed or not. -/
def bound (kind : Widget.Kind) (props : Fields) (data : Value) : Except Fault Fields := do
  return (← bind kind props data).getD props

end Preview

end ReportCompiler
