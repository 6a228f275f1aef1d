import ReportCompiler.Compile.Outline

/-!
Compiling a template: the markup of its body, the entries for the embedded program in the order of the
document, and the problems found. A document of several pages is compiled page by page.
-/

namespace ReportCompiler

open ReportCompiler.Text

structure Compiled where
  html : String
  components : List Component
  findings : List Finding
  widgetCount : Nat
deriving Repr

namespace Compiled

/-- A template that could not be compiled at all. -/
def nothing (finding : Finding) : Compiled :=
  { html := "", components := [], findings := [finding], widgetCount := 0 }

def ofOutlines (outlines : List Outline) : Compiled :=
  { html := join "\n" (Outline.htmlAll outlines)
    components := Outline.componentsAll outlines
    findings := Outline.findingsAll outlines
    widgetCount := Outline.countAll outlines }

/-- Several results as one, their markup already joined. -/
def gather (html : String) (parts : List Compiled) : Compiled :=
  { html
    components := parts.flatMap Compiled.components
    findings := parts.flatMap Compiled.findings
    widgetCount := (parts.map Compiled.widgetCount).foldr (· + ·) 0 }

/-- The result as an object. -/
def value (compiled : Compiled) : Value :=
  .object [("html", .text compiled.html),
    ("components", .list (compiled.components.map Component.value)),
    ("diagnostics", .list (compiled.findings.map Finding.value)),
    ("widget_count", .int compiled.widgetCount)]

end Compiled

def compile (s : Surroundings) (tree : Tree) : Compiled :=
  if tree.nodes.isEmpty then .nothing .emptyTree
  else if tree.roots.isEmpty then .nothing .noRoots
  else .ofOutlines (Outline.ofTree s tree)

/-! ### Pages -/

def pageBreak : Markup := .element "div" [Markup.asWritten "class" "page-break"] []

/-- The element around a page, with the page's number. -/
def pageElement (number : Nat) (background html : String) : Markup :=
  .element "div"
    [Markup.asWritten "class" "report-page", Markup.asWritten "data-page" (toString number),
      Markup.asWritten "style" ("background: " ++ Markup.escape background ++ ";")]
    [.verbatim html]

/-- Every page but the last one is followed by a page break. -/
def pageMarkup (total : Nat) (page : Page) (compiled : Compiled) (index : Nat) : String :=
  (pageElement (index + 1) page.background compiled.html).write
    ++ if index + 1 < total then pageBreak.write else ""

/-- Pages in their order; pages of one order stay as they were given. -/
def inOrder (pages : List Page) : List Page := pages.mergeSort fun first second =>
  first.order ≤ second.order

def compilePages (s : Surroundings) (pages : List Page) : Compiled :=
  let ordered := inOrder pages
  let compiled := ordered.map fun page => (page, compile s page.canvas)
  .gather
    (join "\n" (compiled.mapIdx fun index entry =>
      pageMarkup ordered.length entry.1 entry.2 index))
    (compiled.map Prod.snd)

end ReportCompiler
