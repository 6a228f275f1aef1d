import ReportCompiler.Widget.Chart
import ReportCompiler.Widget.Layout
import ReportCompiler.Widget.Status
import ReportCompiler.Widget.Table
import ReportCompiler.Widget.Text

/-!
How each kind of widget is rendered: its markup and its entry for the embedded program. A registry
gives one renderer to every kind, and a renderer can be replaced.
-/

namespace ReportCompiler

namespace Widget

/-- The markup of a widget and its entry. A hidden widget has neither. -/
structure Rendered where
  html : String
  component : Option Component
deriving Repr

structure Renderer where
  kind : Kind
  holdsChildren : Bool
  defaults : Fields
  /-- The markup of a widget with all its settings, at the present moment. -/
  draw : Moment → String → Fields → Except Fault Markup
  /-- The entry of a widget with all its settings. -/
  entry : String → Fields → Except Fault (Option Component)
  /-- Whether a preview builds the entry from the settings with data filled in. -/
  entryFromData : Bool

namespace Renderer

def render (r : Renderer) (now : Moment) (id : String) (given : Fields) : Except Fault Rendered := do
  let props := resolve r.defaults given
  if isHidden props then return { html := "", component := none }
  let markup ← r.draw now id props
  return { html := markup.write, component := ← r.entry id props }

/-- The entry without the markup. -/
def component (r : Renderer) (id : String) (given : Fields) : Except Fault (Option Component) :=
  let props := resolve r.defaults given
  if isHidden props then .ok none else r.entry id props

end Renderer

namespace Kind

/-- Only pages and containers hold other widgets. -/
def holdsChildren : Kind → Bool
  | page => true
  | container => true
  | _ => false

def defaults : Kind → Fields
  | page => Page.defaults
  | container => Container.defaults
  | spacer => Spacer.defaults
  | divider => Divider.defaults
  | pageBreak => PageBreak.defaults
  | pageNumber => PageNumber.defaults
  | image => Image.defaults
  | text => FreeText.defaults
  | bulletList => BulletList.defaults
  | dateTime => DateTime.defaults
  | indicator => Indicator.defaults
  | gauge => Gauge.defaults
  | progressBar => ProgressBar.defaults
  | table => Table.defaults
  | chart => Chart.defaults

/-- The settings that a bound widget carries into its entry. -/
def carriedNames : Kind → List String
  | text => FreeText.carriedNames
  | bulletList => BulletList.carriedNames
  | dateTime => DateTime.carriedNames
  | indicator => Indicator.carriedNames
  | gauge => Gauge.carriedNames
  | progressBar => ProgressBar.carriedNames
  | table => Table.carriedNames
  | _ => []

def draw (now : Moment) (id : String) (props : Fields) : Kind → Except Fault Markup
  | page => .ok (Page.draw id props)
  | container => .ok (Container.draw id props)
  | spacer => .ok (Spacer.draw id props)
  | divider => .ok (Divider.draw id props)
  | pageBreak => .ok (PageBreak.draw id props)
  | pageNumber => .ok (PageNumber.draw id props)
  | image => .ok (Image.draw id props)
  | text => .ok (FreeText.draw id props)
  | bulletList => .ok (BulletList.draw id props)
  | dateTime => DateTime.draw now id props
  | indicator => .ok (Indicator.draw id props)
  | gauge => Gauge.draw id props
  | progressBar => ProgressBar.draw id props
  | table => Table.draw id props
  | chart => .ok (Chart.draw id props)

/-- Charts always have an entry and page numbers never do. -/
def entry (id : String) (props : Fields) : Kind → Except Fault (Option Component)
  | pageNumber => .ok none
  | chart => (Chart.component id props).map some
  | text => .ok (component? .text text.carriedNames (FreeText.isBound props) id props)
  | kind => .ok (component? kind kind.carriedNames (hasBinding props) id props)

def renderer (kind : Kind) : Renderer :=
  { kind, holdsChildren := kind.holdsChildren, defaults := kind.defaults,
    draw := fun now id props => kind.draw now id props,
    entry := fun id props => kind.entry id props,
    entryFromData := kind == .chart }

theorem component_renderer (kind : Kind) (id : String) (given : Fields) :
    kind.renderer.component id given =
      if isHidden (resolve kind.defaults given) then .ok none
      else kind.entry id (resolve kind.defaults given) := rfl

theorem component_renderer_of_visible (kind : Kind) (id : String) (given : Fields)
    (seen : isHidden (resolve kind.defaults given) = false) :
    kind.renderer.component id given = kind.entry id (resolve kind.defaults given) := by
  rw [component_renderer, seen, if_neg Bool.false_ne_true]

end Kind

/-- A renderer that always gives the same markup, or always fails. -/
def Renderer.fixed (kind : Kind) (html : Option String) (holdsChildren : Bool) : Renderer :=
  { kind, holdsChildren, defaults := [],
    draw := fun _ _ _ =>
      match html with
      | some source => .ok (.verbatim source)
      | none => .error (.raised "the widget cannot be drawn"),
    entry := fun id props => .ok (component? kind [] (hasBinding props) id props),
    entryFromData := false }

/-- One renderer for each kind. -/
structure Registry where
  renderer : Kind → Renderer

namespace Registry

def standard : Registry := { renderer := Kind.renderer }

/-- The renderer takes the place of the one for its kind. -/
def register (registry : Registry) (r : Renderer) : Registry :=
  { renderer := fun kind => if kind = r.kind then r else registry.renderer kind }

def find? (registry : Registry) (type : String) : Option Renderer :=
  (Kind.ofName? type).map registry.renderer

/-- The names of all kinds. -/
def types : List String := Kind.all.map Kind.name

theorem find?_register_self (registry : Registry) (r : Renderer) :
    (registry.register r).renderer r.kind = r := by
  simp [register]

end Registry

end Widget

end ReportCompiler
