import ReportCompiler.Value.Temporal
import ReportCompiler.Widget.Basic

/-!
Widgets of text: free text with or without markers, bullet lists and dates.
-/

namespace ReportCompiler

open ReportCompiler.Text

namespace Widget

namespace FreeText

def defaults : Fields :=
  [("text", .text "Edit this text"), ("fontSize", .int 16), ("fontWeight", .text "normal"),
    ("fontFamily", .text "inherit"), ("color", .text "#000000"), ("textAlign", .text "left"),
    ("binding", .text ""), ("width", .int 200), ("height", .int 50)]

def carriedNames : List String := ["text", "binding"]

/-- Text is bound by its path or by the markers in it. -/
def isBound (props : Fields) : Bool := hasBinding props || Marker.occursIn (props.get "text")

def style (props : Fields) : String :=
  Style.combine
    [Style.position props,
      Style.font { size := props.get "fontSize", weight := props.get "fontWeight",
                   family := props.get "fontFamily", color := props.get "color",
                   align := props.get "textAlign" },
      "margin: 0; padding: 4px 8px; box-sizing: border-box"]

def draw (id : String) (props : Fields) : Markup :=
  let text := (props.get "text").display
  let hook :=
    if !hasBinding props && Marker.occursIn (.text text) then
      [Markup.asWritten "data-has-bindings" "true"]
    else []
  frame .text id props (style props) hook [Markup.text text]

end FreeText

namespace BulletList

def defaults : Fields :=
  [("items", .text "Item 1\nItem 2\nItem 3"), ("listStyle", .text "disc"), ("fontSize", .int 14),
    ("fontFamily", .text "inherit"), ("color", .text "#333333"),
    ("lineHeight", .double (.ofDecimal false 16 (-1))), ("binding", .text ""), ("width", .int 200),
    ("height", .int 100)]

def carriedNames : List String := ["items", "listStyle", "binding"]

def orderedStyles : List String := ["decimal", "lower-roman", "upper-alpha"]

/-- Items of a list, or the lines of a text; blank ones are left out. -/
def items (value : Value) : List String :=
  let written :=
    match value with
    | .list items => items.map Value.display
    | value => split '\n' value.display
  written.filter fun item => !isBlankText item

def isOrdered : Value → Bool
  | .text s => orderedStyles.contains s
  | _ => false

def style (props : Fields) : String :=
  Style.combine
    [Style.position props,
      Style.font { size := props.get "fontSize", family := props.get "fontFamily",
                   color := props.get "color", lineHeight := props.get "lineHeight" },
      "overflow: auto; box-sizing: border-box; padding: 8px 12px"]

def listMarkup (listStyle : Value) (items : List String) : Markup :=
  .element (if isOrdered listStyle then "ol" else "ul")
    [Markup.asWritten "class" "report-list",
      Markup.asWritten "style" ("list-style-type: " ++ Markup.escapeValue listStyle
        ++ "; margin: 0; padding-left: 1.5em;")]
    (items.map fun item =>
      .element "li" [Markup.asWritten "style" "margin-bottom: 4px;"] [Markup.text item])

def draw (id : String) (props : Fields) : Markup :=
  frame .bulletList id props (style props) []
    [listMarkup (props.get "listStyle") (items (props.get "items"))]

end BulletList

namespace DateTime

def defaults : Fields :=
  [("format", .text "date-long"), ("customFormat", .text ""), ("fontSize", .int 12),
    ("fontFamily", .text "inherit"), ("color", .text "#666666"), ("textAlign", .text "center"),
    ("binding", .text ""), ("width", .int 150), ("height", .int 30)]

def carriedNames : List String := ["format", "customFormat", "binding"]

/-- The value in the chosen format, or the present moment where there is no value; what is no date is
shown as it is. -/
def shown (now : Moment) (props : Fields) : Except Fault String := do
  let pattern ← Value.datePattern (props.get "format") (props.get "customFormat")
  match props.get "value" with
  | .null => Value.formatMoment pattern now
  | value =>
      match value.moment? with
      | some m => Value.formatMoment pattern m
      | none => return value.display

def style (props : Fields) : String :=
  Style.combine
    [Style.position props,
      Style.font { size := props.get "fontSize", family := props.get "fontFamily",
                   color := props.get "color", align := props.get "textAlign" },
      "display: flex; align-items: center; justify-content: " ++ (props.get "textAlign").plain
        ++ "; box-sizing: border-box; padding: 0 8px"]

def draw (now : Moment) (id : String) (props : Fields) : Except Fault Markup := do
  return frame .dateTime id props (style props) (Markup.optional "data-format" (props.get "format"))
    [Markup.text (← shown now props)]

end DateTime

end Widget

end ReportCompiler
