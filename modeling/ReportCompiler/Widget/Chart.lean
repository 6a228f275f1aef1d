import ReportCompiler.Style.Color
import ReportCompiler.Value.Numeric
import ReportCompiler.Widget.Basic

/-!
Charts. The markup is an empty canvas with a placeholder; the entry for the embedded program holds the
whole configuration: labels, datasets with their points and bindings, options and scales.
-/

namespace ReportCompiler

open ReportCompiler.Text

namespace Widget

namespace Chart

def colors : List String :=
  ["#0066cc", "#28a745", "#fd7e14", "#dc3545", "#17a2b8", "#6f42c1", "#007bff", "#c82333",
    "#20c997", "#ffc107"]

def colorValues : Value := .list (colors.map .text)

def defaultPoints : String := "65, 59, 80, 81, 56"

def defaults : Fields :=
  [("chartType", .text "bar"), ("title", .text "Chart Title"), ("label", .text "Dataset"),
    ("labels", .text ""), ("dataPoints", .text defaultPoints), ("binding", .text ""),
    ("backgroundColor", .text "rgba(0, 102, 204, 0.5)"), ("borderColor", .text "#0066cc"),
    ("datasets", .list []), ("enableMultiAxis", .bool false), ("width", .int 400),
    ("height", .int 300)]

def isText (name : String) : Value → Bool
  | .text s => s == name
  | _ => false

def chartType (props : Fields) : Value := (props.get "chartType").orElse (.text "bar")

def hasTwoAxes (props : Fields) : Bool := (props.get "enableMultiAxis").isPresent

/-! ### Datasets -/

/-- The datasets of a chart; none where nothing is given. -/
def datasets (props : Fields) : Except Fault (List Value) :=
  let value := props.get "datasets"
  if value.isPresent then value.items? else .ok []

/-- The value, or nothing where it does not count as given. -/
def given (value : Value) : Value := value.orElse .null

def curved : Bool → Value
  | true => .double (.ofDecimal false 3 (-1))
  | false => .int 0

/-- Half transparent, for a hexadecimal colour; any other colour stays as it is. -/
def softened (color : Value) : Except Fault Value :=
  match color with
  | .text s =>
      if startsWith s "#" then
        (Color.withOpacity s (.double (.ofDecimal false 5 (-1)))).map .text
      else .ok color
  | _ => .error .notText

/-- A dataset of several, with the colour of its place where it has none. -/
def dataset (props : Fields) (index : Nat) (value : Value) : Except Fault Value := do
  let own ← value.fields?
  let type := chartType props
  let isPie := isText "pie" type
  let color := (own.get "color").orElse (.text (colors.getD (index % colors.length) ""))
  let background := own.get "backgroundColor"
  let fill ← if background.isPresent then pure background else softened color
  let ownType := (own.get "chartType").orElse (if isPie then .text "bar" else type)
  let axis := own.get "yAxisID"
  let points := own.get "dataPoints"
  return .object (Fields.withoutNulls
    [("label", (own.get "label").orElse (.text ("Dataset " ++ toString (index + 1)))),
      ("binding", given (own.get "binding")),
      ("dataPoints", points),
      ("data", .list (points.points.map .number)),
      ("type", if isPie then .null else ownType),
      ("backgroundColor", if isPie then colorValues else fill),
      ("borderColor", color),
      ("borderWidth", .int 2),
      ("yAxisID", if hasTwoAxes props && axis.isPresent then axis else .text "y"),
      ("fill", .bool (own.get "fill").isPresent),
      ("tension", curved (isText "line" ownType || isText "line" type))])

/-- The dataset of a chart that has a single one. -/
def soleDataset (props : Fields) : Value :=
  let type := chartType props
  let isPie := isText "pie" type
  let points := (props.get "dataPoints").orElse (.text defaultPoints)
  .object (Fields.withoutNulls
    [("label", (props.get "label").orElse (.text "Dataset")),
      ("binding", given (props.get "binding")),
      ("dataPoints", points),
      ("data", .list (points.points.map .number)),
      ("backgroundColor", if isPie then colorValues else props.get "backgroundColor"),
      ("borderColor", if isPie then .text "#ffffff" else props.get "borderColor"),
      ("borderWidth", .int 2),
      ("yAxisID", .text "y"),
      ("fill", .bool false),
      ("tension", curved (isText "line" type))])

def builtDatasets (props : Fields) : Except Fault (List Value) := do
  match ← datasets props with
  | [] => return [soleDataset props]
  | several => (several.zipIdx).mapM fun (value, index) => dataset props index value

/-! ### Options -/

def ticks : Fields :=
  [("ticks", .object [("color", .text "#666")]),
    ("grid", .object [("color", .text "rgba(0,0,0,0.1)")])]

def baseScale : Fields := ("beginAtZero", .bool true) :: ticks

/-- One of two vertical axes. -/
def sideScale (position title : String) : Fields :=
  baseScale ++ [("type", .text "linear"), ("display", .bool true), ("position", .text position),
    ("title", .object [("display", .bool true), ("text", .text title), ("color", .text "#666")])]

/-- The scales of a chart; a pie has none. -/
def scales (type : Value) (twoAxes : Bool) : Value :=
  if isText "pie" type then .null
  else if twoAxes then
    .object
      [("y", .object (sideScale "left" "Primary Axis")),
        ("y1", .object ((sideScale "right" "Secondary Axis").set "grid"
          (.object [("drawOnChartArea", .bool false)]))),
        ("x", .object ticks)]
  else .object [("y", .object baseScale), ("x", .object ticks)]

def options (props : Fields) : Fields :=
  Fields.withoutNulls
    [("responsive", .bool true),
      ("maintainAspectRatio", .bool false),
      ("interaction", .object [("mode", .text "index"), ("intersect", .bool false)]),
      ("plugins", .object
        [("legend", .object
            [("position", .text "top"), ("labels", .object [("color", .text "#666")])]),
          ("title", .object
            [("display", .bool true), ("text", (props.get "title").orElse (.text "")),
              ("color", .text "#333"), ("font", .object [("size", .int 16)])])]),
      ("scales", scales (chartType props) (hasTwoAxes props))]

/-! ### The entry -/

/-- The first dataset of those given, which must be a list of objects. -/
def firstDataset? (props : Fields) : Except Fault (Option Fields) :=
  match props.get "datasets" with
  | .list [] => .ok none
  | .list (first :: _) => first.fields?.map some
  | .object [] => .ok none
  | .object _ => .error (.unknownKey "0")
  | .text "" => .ok none
  | .text _ => .error .notAnObject
  | value => if value.isPresent then .error .notEnumerable else .ok none

/-- The points that decide how many labels there are. -/
def leadingPoints (props : Fields) : Except Fault Value := do
  let first ← firstDataset? props
  let own := Value.ofOption (first.map fun fields => fields.get "dataPoints")
  return own.orElse (props.get "dataPoints")

def labels (props : Fields) : Except Fault (List String) := do
  let points ← leadingPoints props
  return (props.get "labels").labels points.points.length

/-- The bindings of one dataset. -/
def datasetBinding (value : Value) : Except Fault Value := do
  let own ← value.fields?
  return .object (Fields.withoutNulls
    [("binding", own.get "binding"), ("dataPoints", own.get "dataPoints")])

def bindings (props : Fields) : Except Fault Fields := do
  let title := (props.get "title").orElse (.text "")
  let ofDatasets ← (← datasets props).mapM datasetBinding
  return Fields.withoutNulls
    [("title", if Marker.occursIn title then title else .null),
      ("datasets", .list ofDatasets),
      ("primaryBinding", given (props.get "binding"))]

def component (id : String) (props : Fields) : Except Fault Component := do
  let shownLabels ← labels props
  let built ← builtDatasets props
  let bound ← bindings props
  let entries : Fields :=
    [("chartType", chartType props),
      ("title", (props.get "title").orElse (.text "")),
      ("labels", .list (shownLabels.map .text)),
      ("datasets", .list built),
      ("options", .object (options props)),
      ("enableMultiAxis", .bool (hasTwoAxes props)),
      ("bindings", .object bound)]
  return { id, type := Kind.chart.label, props := withCondition props entries }

/-! ### Markup -/

def placeholder (title : Value) : Markup :=
  .element "div"
    [Markup.asWritten "style"
      ("display: flex; flex-direction: column; align-items: center; justify-content: center; "
        ++ "height: 100%; color: #666;")]
    [.element "div"
        [Markup.asWritten "style" "font-size: 14px; font-weight: 500; margin-bottom: 8px;"]
        [Markup.value title],
      .element "div" [Markup.asWritten "style" "font-size: 12px; color: #999;"]
        [Markup.text "Chart will render when data is loaded"]]

def draw (id : String) (props : Fields) : Markup :=
  frame .chart id props
    (Style.combine
      [Style.position props,
        "box-sizing: border-box; background: #fff; border-radius: 8px; padding: 16px"])
    []
    [.element "canvas"
      [Markup.asWritten "id" (Markup.escape id ++ "-canvas"),
        Markup.asWritten "style" "width: 100%; height: 100%;"]
      [placeholder (props.get "title")]]

end Chart

end Widget

end ReportCompiler
