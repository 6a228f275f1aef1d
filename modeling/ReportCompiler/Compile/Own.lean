import ReportCompiler.Compile.Diagnostic
import ReportCompiler.Preview.Binding
import ReportCompiler.Template.Basic
import ReportCompiler.Widget.Renderer

/-!
What a widget contributes by itself, before its children are looked at: its markup, its entry for the
embedded program, and the problems found. A widget of unknown type and a widget that cannot be rendered
leave a comment in their place.
-/

namespace ReportCompiler

open ReportCompiler.Text

/-- What widgets are rendered with. There is no sample data unless a preview is wanted. -/
structure Surroundings where
  registry : Widget.Registry
  now : Moment
  data : Value

/-- A widget's own contribution. -/
structure Own where
  html : String
  components : List Component
  findings : List Finding
  /-- Whether the widget counts as rendered. -/
  isShown : Bool
  /-- Whether its children are placed inside it. -/
  isOpen : Bool
deriving Repr

namespace Own

/-- A widget that gives nothing but a piece of markup. -/
def placeholder (html : String) (components : List Component) (findings : List Finding) : Own :=
  { html, components, findings, isShown := false, isOpen := false }

def unknown (node : Node) : Own :=
  placeholder ("<!-- Unknown component type: " ++ Markup.escape node.type ++ " -->")
    [{ id := node.id, type := node.type, props := node.props }]
    [.unknownType node.type node.id]

def failed (node : Node) (fault : Fault) (earlier : List Finding) : Own :=
  placeholder ("<!-- Failed to render component: " ++ Markup.escape node.id ++ " -->") []
    (earlier ++ [.renderFailed node.id fault.message])

/-- The finding about a condition that cannot be used. -/
def conditionFindings (node : Node) : List Finding :=
  match Condition.complaint? (node.props.get "visibilityCondition") with
  | some complaint => [.invalidCondition node.id complaint]
  | none => []

/-- A widget that has been rendered; its children are ignored unless it can hold them. -/
def rendered (node : Node) (holdsChildren : Bool) (result : Widget.Rendered)
    (earlier : List Finding) : Own :=
  if result.html == "" then placeholder "" [] earlier
  else
    let ignored :=
      if node.children.isEmpty || holdsChildren then []
      else [Finding.ignoredChildren node.type node.id node.children.length]
    { html := result.html, components := result.component.toList, findings := earlier ++ ignored,
      isShown := true, isOpen := holdsChildren && !node.children.isEmpty }

/-- Markup and entry of a widget. With data, the markup shows the data and the entry keeps the widget's
own settings, save for renderers that build it from the data. -/
def render (s : Surroundings) (renderer : Widget.Renderer) (node : Node) :
    Except Fault Widget.Rendered := do
  if s.data.isNull then renderer.render s.now node.id node.props
  else
    let filled ← Preview.bound renderer.kind node.props s.data
    let result ← renderer.render s.now node.id filled
    if renderer.entryFromData then return result
    return { result with component := ← renderer.component node.id node.props }

def ofNode (s : Surroundings) (node : Node) : Own :=
  match s.registry.find? node.type with
  | none => unknown node
  | some renderer =>
      let earlier := conditionFindings node
      match render s renderer node with
      | .ok result => rendered node renderer.holdsChildren result earlier
      | .error fault => failed node fault earlier

end Own

end ReportCompiler
