import ReportCompiler.Number.Places
import ReportCompiler.Value.Numeric
import ReportCompiler.Widget.Basic

/-!
Widgets that show a state or a measure: indicators, gauges and progress bars. A gauge is an arc of
three quarters of a circle around its value.
-/

namespace ReportCompiler

open ReportCompiler.Text

namespace Widget

/-! ### States -/

inductive Status where
  | pass
  | fail
  | warning
  | neutral
deriving DecidableEq, Repr, Inhabited

namespace Status

def all : List Status := [pass, fail, warning, neutral]

def name : Status → String
  | pass => "pass"
  | fail => "fail"
  | warning => "warning"
  | neutral => "neutral"

/-- How a state looks. -/
structure Palette where
  background : String
  border : String
  text : String
  icon : String
  label : String

def palette : Status → Palette
  | pass =>
      { background := "rgba(57, 255, 20, 0.15)", border := "#39ff14", text := "#39ff14",
        icon := "&#10004;", label := "PASS" }
  | fail =>
      { background := "rgba(255, 107, 107, 0.15)", border := "#ff6b6b", text := "#ff6b6b",
        icon := "&#10008;", label := "FAIL" }
  | warning =>
      { background := "rgba(255, 176, 0, 0.15)", border := "#ffb000", text := "#ffb000",
        icon := "&#9888;", label := "WARNING" }
  | neutral =>
      { background := "rgba(156, 163, 175, 0.15)", border := "#9ca3af", text := "#9ca3af",
        icon := "&#8722;", label := "N/A" }

def ofName? (name : String) : Option Status := all.find? fun status => status.name == name

/-- Values that mean a pass without being called so. -/
def passWords : List String := ["true", "1", "yes"]

/-- The state that a value names; what names none is neutral. -/
def ofValue (value : Value) : Status :=
  let word := lower (trim value.display)
  match ofName? word with
  | some status => status
  | none => if passWords.contains word then pass else neutral

/-- The setting that holds the label of a state. -/
def labelKey? : Status → Option String
  | pass => some "passLabel"
  | fail => some "failLabel"
  | warning => some "warningLabel"
  | neutral => none

/-- The widget's own label, the label set for the state, or the state's usual one. -/
def shownLabel (status : Status) (props : Fields) : String :=
  let own := props.get "label"
  if own.isPresent then own.display
  else
    let set := Value.ofOption (status.labelKey?.map props.get)
    if set.isPresent then set.display else status.palette.label

/-- The label of a state given by name. An unknown state has only the widget's own label. -/
def labelOf (name : String) (props : Fields) : Except Fault String :=
  match ofName? name with
  | some status => .ok (status.shownLabel props)
  | none =>
      let own := props.get "label"
      if own.isPresent then .ok own.display else .error (.unknownKey name)

end Status

namespace Indicator

def defaults : Fields :=
  [("status", .text "neutral"), ("label", .text ""), ("passLabel", .text "PASS"),
    ("failLabel", .text "FAIL"), ("warningLabel", .text "WARNING"), ("binding", .text ""),
    ("width", .int 120), ("height", .int 44)]

def carriedNames : List String :=
  ["status", "label", "passLabel", "failLabel", "warningLabel", "binding"]

def badge (status : Status) (props : Fields) : Markup :=
  let palette := status.palette
  .element "div"
    [Markup.asWritten "class" "indicator-badge",
      Markup.asWritten "style"
        ("display: flex; align-items: center; justify-content: center; width: 100%; height: 100%; "
          ++ "gap: 8px; padding: 8px 16px; border-radius: 8px; border: 2px solid " ++ palette.border
          ++ "; background: " ++ palette.background ++ "; box-sizing: border-box")]
    [.element "span"
        [Markup.asWritten "class" "indicator-icon",
          Markup.asWritten "style"
            ("font-size: 18px; color: " ++ palette.text ++ "; font-weight: bold")]
        [.verbatim palette.icon],
      .element "span"
        [Markup.asWritten "class" "indicator-label",
          Markup.asWritten "style"
            ("font-size: 14px; font-weight: 600; color: " ++ palette.text
              ++ "; font-family: 'JetBrains Mono', monospace")]
        [Markup.text (status.shownLabel props)]]

def draw (id : String) (props : Fields) : Markup :=
  let status := Status.ofValue (props.get "status")
  frame .indicator id props (Style.position props) [Markup.escaped "data-status" status.name]
    [badge status props]

end Indicator

/-! ### Measures -/

/-- A measure and its bounds; what is missing counts from zero to a hundred. -/
structure Measure where
  value : Number
  low : Number
  high : Number
deriving DecidableEq, Repr

namespace Measure

def ofProps (props : Fields) : Measure :=
  { value := (props.get "value").number?.getD (.int 0)
    low := (props.get "min").numberOrZero
    high := (props.get "max").number?.getD (.int 100) }

def percentage (m : Measure) : Except Fault Double := Number.percentage m.value m.low m.high

end Measure

/-- A length in a drawing, with four decimal places at most. -/
def lengthText : Number → String
  | .int n => (Number.int n).text
  | .double x => (Number.double (x.roundPlaces 4)).text

namespace Gauge

def defaults : Fields :=
  [("value", .int 50), ("min", .int 0), ("max", .int 100), ("label", .text ""), ("unit", .text "%"),
    ("primaryColor", .text "#0066cc"), ("backgroundColor", .text "rgba(0, 0, 0, 0.1)"),
    ("textColor", .text "#333333"), ("binding", .text ""), ("width", .int 150),
    ("height", .int 150)]

def carriedNames : List String := ["value", "min", "max", "label", "unit", "binding"]

def strokeWidth : Int := 12

/-- The share of the circle that the arc covers. -/
def arcFraction : Double := .ofDecimal false 75 (-2)

def fullTurn : Double := (Double.ofInt 2).mul (.ofDecimal false 3141592653589793 (-15))

/-- Where the arc is drawn, and how long it is. -/
structure Geometry where
  size : Number
  center : Number
  radius : Number
  circumference : Number
  arc : Number
  /-- The part of the arc that is filled. -/
  filled : Number

def geometry (percentage : Double) (props : Fields) : Except Fault Geometry := do
  let narrow := Number.min (props.get "width").numberOrZero (props.get "height").numberOrZero
  let size := Number.max (← narrow.sub (.int 20)) (.int 0)
  let half : Number := .double (← size.div (.int 2))
  let radius := Number.max (← half.sub (.int strokeWidth)) (.int 0)
  let circumference ← (Number.double fullTurn).mul radius
  let arc ← circumference.mul (.double arcFraction)
  let filled ← (← arc.mul (.double percentage)).div (.int 100)
  return { size, center := half, radius, circumference, arc, filled := .double filled }

def circle (g : Geometry) (name : String) (color : Value) (length : Number) : Markup :=
  .single "circle"
    [Markup.asWritten "class" name, Markup.asWritten "cx" (lengthText g.center),
      Markup.asWritten "cy" (lengthText g.center), Markup.asWritten "r" (lengthText g.radius),
      Markup.asWritten "fill" "none", Markup.asWritten "stroke-width" (toString strokeWidth),
      Markup.asWritten "stroke-linecap" "round",
      Markup.asWritten "stroke" (Markup.escapeValue color),
      Markup.asWritten "stroke-dasharray" (lengthText length ++ " " ++ lengthText g.circumference)]

def drawing (g : Geometry) (props : Fields) : Markup :=
  let size := lengthText g.size
  .element "svg"
    [Markup.asWritten "width" size, Markup.asWritten "height" size,
      Markup.asWritten "viewBox" ("0 0 " ++ size ++ " " ++ size),
      Markup.asWritten "style" "transform: rotate(-225deg);"]
    [circle g "gauge-track" (props.get "backgroundColor") g.arc,
      circle g "gauge-value-arc" (props.get "primaryColor") g.filled]

/-- The value in the middle, with its unit and perhaps a label below. -/
def middle (g : Geometry) (value : Number) (props : Fields) : Except Fault Markup := do
  let large ← g.size.mul (.double (.ofDecimal false 18 (-2)))
  let small ← g.size.mul (.double (.ofDecimal false 8 (-2)))
  let label := props.get "label"
  return .element "div"
    [Markup.asWritten "style"
      ("position: absolute; display: flex; flex-direction: column; align-items: center; color: "
        ++ Markup.escapeValue (props.get "textColor") ++ ";")]
    (.element "span"
        [Markup.asWritten "class" "gauge-value",
          Markup.asWritten "style"
            ("font-size: " ++ lengthText large ++ "px; font-weight: bold;")]
        [.verbatim (value.fixed 0), Markup.value (props.get "unit")]
      :: if label.isPresent then
          [.element "span"
            [Markup.asWritten "class" "gauge-label",
              Markup.asWritten "style" ("font-size: " ++ lengthText small ++ "px; opacity: 0.7;")]
            [Markup.value label]]
        else [])

def style (props : Fields) : String :=
  Style.combine
    [Style.position props,
      "display: flex; flex-direction: column; align-items: center; justify-content: center; "
        ++ "box-sizing: border-box; background: rgba(0, 0, 0, 0.05); border-radius: 8px"]

def draw (id : String) (props : Fields) : Except Fault Markup := do
  let measure := Measure.ofProps props
  let g ← geometry (← measure.percentage) props
  return frame .gauge id props (style props)
    [Markup.escaped "data-value" measure.value.text,
      Markup.escaped "data-arc-length" (lengthText g.arc),
      Markup.escaped "data-circumference" (lengthText g.circumference)]
    [.element "div"
      [Markup.asWritten "style"
        ("position: relative; display: flex; flex-direction: column; align-items: center; "
          ++ "justify-content: center; width: 100%; height: 100%")]
      [drawing g props, ← middle g measure.value props]]

end Gauge

namespace ProgressBar

def defaults : Fields :=
  [("value", .int 50), ("min", .int 0), ("max", .int 100), ("label", .text ""),
    ("showValue", .bool true), ("fillColor", .text "#0066cc"),
    ("backgroundColor", .text "rgba(0, 0, 0, 0.1)"), ("textColor", .text "#333333"),
    ("borderRadius", .int 4), ("binding", .text ""), ("width", .int 200), ("height", .int 40)]

def carriedNames : List String := ["value", "min", "max", "label", "showValue", "binding"]

/-- The value is shown unless it is switched off by an explicit false. -/
def showsValue (props : Fields) : Bool :=
  match props.get "showValue" with
  | .bool false => false
  | _ => true

/-- The row above the bar, where there is a label or a value to show. -/
def caption (percentage : Double) (props : Fields) : List Markup :=
  let label := props.get "label"
  if label.isPresent || showsValue props then
    [.element "div"
      [Markup.asWritten "style"
        ("display: flex; justify-content: space-between; margin-bottom: 4px; font-size: 12px; color: "
          ++ Markup.escapeValue (props.get "textColor") ++ ";")]
      (.element "span" [Markup.asWritten "class" "progress-label"] [Markup.value label]
        :: if showsValue props then
            [.element "span" [Markup.asWritten "class" "progress-value"]
              [.verbatim ((Number.double percentage).fixed 0 ++ "%")]]
          else [])]
  else []

def bar (percentage : Double) (props : Fields) : Markup :=
  let corner := "; border-radius: " ++ (props.get "borderRadius").plain
  .element "div"
    [Markup.asWritten "class" "progress-track",
      Markup.asWritten "style"
        ("width: 100%; overflow: hidden; flex: 1; background: "
          ++ Markup.escapeValue (props.get "backgroundColor") ++ corner ++ "px; min-height: 6px")]
    [.element "div"
      [Markup.asWritten "class" "progress-fill",
        Markup.asWritten "style"
          ("width: " ++ lengthText (.double percentage) ++ "%; height: 100%; background: "
            ++ Markup.escapeValue (props.get "fillColor") ++ corner
            ++ "px; box-sizing: border-box")]
      []]

def style (props : Fields) : String :=
  Style.combine
    [Style.position props,
      "display: flex; flex-direction: column; justify-content: center; padding: 4px 8px; "
        ++ "box-sizing: border-box"]

def draw (id : String) (props : Fields) : Except Fault Markup := do
  let measure := Measure.ofProps props
  let percentage ← measure.percentage
  return frame .progressBar id props (style props)
    [Markup.escaped "data-value" measure.value.text]
    (caption percentage props ++ [bar percentage props])

end ProgressBar

end Widget

end ReportCompiler
