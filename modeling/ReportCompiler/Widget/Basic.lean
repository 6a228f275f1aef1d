import ReportCompiler.Binding.Marker
import ReportCompiler.Markup.Basic
import ReportCompiler.Style.Basic
import ReportCompiler.Widget.Kind

/-!
What all widgets share: their settings with defaults filled in, the opening element with its hooks for
the embedded program, and the entry that tells the program how to bind the widget.
-/

namespace ReportCompiler

open ReportCompiler.Text

/-- What the embedded program is told about a widget. -/
structure Component where
  id : String
  type : String
  props : Fields
deriving Repr, Inhabited, BEq

/-- The entry as an object. -/
def Component.value (component : Component) : Value :=
  .object [("id", .text component.id), ("type", .text component.type),
    ("props", .object component.props)]

namespace Widget

/-- Defaults of every widget. -/
def sharedDefaults : Fields :=
  [("x", .int 0), ("y", .int 0), ("zIndex", .int 1), ("visible", .bool true)]

/-- The settings of a widget: what was given, then the defaults. A null counts as not given. -/
def resolve (defaults given : Fields) : Fields := given.withoutNulls ++ defaults ++ sharedDefaults

/-- Only an explicit false hides a widget. -/
def isHidden (props : Fields) : Bool :=
  match props.get "visible" with
  | .bool false => true
  | _ => false

/-- The condition under which a widget is shown: a text that is not blank. -/
def condition? (props : Fields) : Option String :=
  match props.get "visibilityCondition" with
  | .text s => if isBlankText s then none else some s
  | _ => none

/-- The path that a widget is bound to, or the empty text. -/
def bindingText (props : Fields) : String := trim (props.get "binding").plainIfPresent

def hasBinding (props : Fields) : Bool := bindingText props != ""

/-- Marks a widget whose condition does not hold on the sample data. -/
def hiddenByCondition : String := "conditionHidden"

/-! ### Markup -/

def conditionAttribute (props : Fields) : List Attribute :=
  match condition? props with
  | some condition => [Markup.escaped "data-visibility-condition" condition]
  | none => []

def bindingAttribute (props : Fields) : List Attribute :=
  if hasBinding props then [Markup.escaped "data-binding" (bindingText props)] else []

def hiddenAttribute (props : Fields) : List Attribute :=
  if (props.get hiddenByCondition).isPresent then [Markup.escaped "data-condition-hidden" "true"]
  else []

/-- The attributes of the element that a widget lives in. -/
def attributes (kind : Kind) (id : String) (props : Fields) (style : String)
    (more : List Attribute) : List Attribute :=
  [Markup.escaped "id" id, Markup.asWritten "data-component" kind.label] ++ more
    ++ [Markup.escaped "style" style] ++ bindingAttribute props ++ conditionAttribute props
    ++ hiddenAttribute props

/-- The element that a widget lives in. -/
def frame (kind : Kind) (id : String) (props : Fields) (style : String) (more : List Attribute)
    (children : List Markup) : Markup :=
  .element "div" (attributes kind id props style more) children

/-! ### Entry for the embedded program -/

/-- The settings that a bound widget carries along. -/
def carried (names : List String) (props : Fields) : Fields :=
  names.map fun name => (name, props.get name)

def withCondition (props entries : Fields) : Fields :=
  match condition? props with
  | some condition => entries ++ [("visibilityCondition", .text condition)]
  | none => entries

/-- A widget needs an entry when it is bound or has a condition. -/
def component? (kind : Kind) (names : List String) (bound : Bool) (id : String) (props : Fields) :
    Option Component :=
  if bound || (condition? props).isSome then
    some { id, type := kind.label,
           props := withCondition props (if bound then carried names props else []) }
  else none

end Widget

end ReportCompiler
