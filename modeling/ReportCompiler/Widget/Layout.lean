import ReportCompiler.Widget.Basic

/-!
Widgets that lay out a page: pages and containers, which hold other widgets, spacers, dividers, page
breaks, page numbers and images.
-/

namespace ReportCompiler

open ReportCompiler.Text

namespace Widget

namespace Page

def defaults : Fields := [("background", .text "#ffffff"), ("padding", .int 40)]

def style (props : Fields) : String :=
  Style.combine
    ["position: relative; width: 100%; min-height: 100%",
      "background: " ++ (props.get "background").plain ++ "; padding: "
        ++ (props.get "padding").plain ++ "px; box-sizing: border-box"]

def draw (id : String) (props : Fields) : Markup := frame .page id props (style props) [] []

end Page

namespace Container

def defaults : Fields :=
  [("background", .text "#f5f5f5"), ("padding", .int 16), ("borderRadius", .int 8),
    ("borderWidth", .int 1), ("borderColor", .text "#e0e0e0"), ("width", .int 300),
    ("height", .int 200)]

def style (props : Fields) : String :=
  Style.combine
    [Style.position props,
      "background: " ++ (props.get "background").plain ++ "; padding: "
        ++ (props.get "padding").plain ++ "px; border-radius: "
        ++ (props.get "borderRadius").plain ++ "px; border: "
        ++ (props.get "borderWidth").plain ++ "px solid " ++ (props.get "borderColor").plain
        ++ "; box-sizing: border-box; min-height: 60px"]

def draw (id : String) (props : Fields) : Markup := frame .container id props (style props) [] []

end Container

namespace Spacer

def defaults : Fields := [("width", .int 100), ("height", .int 40)]

def draw (id : String) (props : Fields) : Markup :=
  frame .spacer id props (Style.position props) [] []

end Spacer

namespace Divider

def defaults : Fields :=
  [("orientation", .text "horizontal"), ("style", .text "solid"),
    ("color", .text "rgba(0, 0, 0, 0.3)"), ("thickness", .int 1), ("width", .int 200),
    ("height", .int 20)]

def isHorizontal (props : Fields) : Bool :=
  match props.get "orientation" with
  | .text "horizontal" => true
  | _ => false

def lineStyle (props : Fields) : String :=
  let thickness := (props.get "thickness").plain
  let line := thickness ++ "px " ++ (props.get "style").plain ++ " " ++ (props.get "color").plain
  if isHorizontal props then "width: 100%; height: " ++ thickness ++ "px; border-top: " ++ line
  else "width: " ++ thickness ++ "px; height: 100%; border-left: " ++ line

def style (props : Fields) : String :=
  Style.combine
    [Style.position props,
      "display: flex; align-items: center; justify-content: "
        ++ if isHorizontal props then "stretch" else "center"]

def draw (id : String) (props : Fields) : Markup :=
  frame .divider id props (style props) []
    [.element "div" [Markup.escaped "style" (lineStyle props)] []]

end Divider

namespace PageBreak

def defaults : Fields := [("width", .int 400), ("height", .int 40)]

def draw (id : String) (props : Fields) : Markup :=
  frame .pageBreak id props (Style.combine [Style.position props, "page-break-before: always"])
    [Markup.asWritten "class" "page-break"] []

end PageBreak

namespace Image

def placeholder : String := "https://via.placeholder.com/300x200"

def defaults : Fields :=
  [("src", .text placeholder), ("alt", .text "Image"), ("objectFit", .text "cover"),
    ("width", .int 300), ("height", .int 200)]

def imageStyle (props : Fields) : String :=
  "width: 100%; height: 100%; object-fit: " ++ (props.get "objectFit").plain ++ "; display: block"

def draw (id : String) (props : Fields) : Markup :=
  frame .image id props (Style.position props) []
    [.single "img"
      [Markup.asWritten "src" (Markup.escapeValue (props.get "src")),
        Markup.asWritten "alt" (Markup.escapeValue (props.get "alt")),
        Markup.escaped "style" (imageStyle props)]]

end Image

namespace PageNumber

def defaults : Fields :=
  [("format", .text "page-of"), ("fontSize", .int 12), ("fontFamily", .text "inherit"),
    ("color", .text "#666666"), ("prefix", .text ""), ("suffix", .text ""), ("width", .int 100),
    ("height", .int 30)]

def counter (name : String) : Markup := .element "span" [Markup.asWritten "class" name] []

/-- The number of the page, alone or with the number of pages. -/
def body (format : Value) : List Markup :=
  match format with
  | .text "page" => [counter "page-number"]
  | .text "slash" => [counter "page-number", Markup.text "/", counter "page-count"]
  | _ => [counter "page-number", Markup.text " of ", counter "page-count"]

def style (props : Fields) : String :=
  Style.combine
    [Style.position props,
      Style.font { size := props.get "fontSize", family := props.get "fontFamily",
                   color := props.get "color", align := .text "center" },
      "display: flex; align-items: center; justify-content: center; box-sizing: border-box"]

def draw (id : String) (props : Fields) : Markup :=
  frame .pageNumber id props (style props)
    (Markup.optional "data-format" (props.get "format")
      ++ [Markup.asWritten "class" "page-number-container"])
    ([Markup.value (props.get "prefix")] ++ body (props.get "format")
      ++ [Markup.value (props.get "suffix")])

end PageNumber

end Widget

end ReportCompiler
