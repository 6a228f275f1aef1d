import ReportCompiler.Payload.Field
import ReportCompiler.Template.Basic

/-!
Templates as payloads. A tree comes as an object with the map of its widgets under `nodes`, or as the
map alone. A widget without an id has its key for one, and its children stand under `children` or under
`nodes`.
-/

namespace ReportCompiler

open ReportCompiler.Payload

namespace Node

/-- The type of a widget that names none. -/
def unknownType : String := "Unknown"

/-- The type's name, or an object that holds it. -/
def typeName : Payload.Reader String := fun value =>
  let name :=
    match value with
    | .object fields => Fields.get fields "resolvedName"
    | value => value
  text (name.orElse (.text unknownType))

/-- Null stands for no entries. -/
def entriesOrNull : Payload.Reader Fields
  | .null => .valid []
  | value => object value

def childrenOrNull : Payload.Reader (List String)
  | .null => .valid []
  | value => list text value

def ofFields (fields : Fields) : Checked Node :=
  (fun id type props children custom => { id, type, props, children, custom : Node })
    <$> Payload.optional ["id"] "" text fields
    <*> Payload.optional ["type"] unknownType typeName fields
    <*> Payload.optional ["props"] [] entriesOrNull fields
    <*> Payload.optional ["children", "nodes"] [] childrenOrNull fields
    <*> Payload.optional ["custom"] [] entriesOrNull fields

/-- A widget with the key for its id where it has none. -/
def withId (key : String) (fields : Fields) : Fields :=
  if (fields.get "id").isPresent then fields else fields.set "id" (.text key)

def ofEntry (key : String) : Payload.Reader Node :=
  record false fun fields => ofFields (withId key fields)

end Node

namespace Tree

def nodesOf : Payload.Reader (List (String × Node)) := fun value =>
  (object value).andThen (entries Node.ofEntry)

def ofFields (fields : Fields) : Checked Tree :=
  (fun nodes rootId => { nodes, rootId : Tree })
    <$> Payload.optional ["nodes"] [] nodesOf fields
    <*> Payload.optional ["rootId", "rootNodeId", "root_id"] none (nullable text) fields

/-- A payload that already has a map under `nodes`, or a map to be put there. -/
def wrapped (value : Value) : Fields :=
  match value with
  | .object fields =>
      match Fields.get fields "nodes" with
      | .object _ => fields
      | _ => [("nodes", value)]
  | _ => [("nodes", value)]

def ofPayload : Payload.Reader Tree
  | .null => .valid Tree.empty
  | value => ofFields (wrapped value)

end Tree

namespace Page

/-- How a page looks. -/
structure Look where
  background : String
  padding : Number

def defaultLook : Look := { background := "#ffffff", padding := .int 40 }

def lookOf (fields : Fields) : Checked Look :=
  (fun background padding => { background, padding : Look })
    <$> Payload.optional ["background"] defaultLook.background text fields
    <*> Payload.optional ["padding"] defaultLook.padding
      (fun value => (number value).map Number.double) fields

def ofFields (orAttributes : Bool) (fields : Fields) : Checked Page :=
  (fun id name canvas (look : Look) order =>
      { id, name, canvas, background := look.background, padding := look.padding, order : Page })
    <$> Payload.required "id" text fields
    <*> Payload.optional ["name"] "" text fields
    <*> Payload.optional ["canvasState", "canvas_state"] Tree.empty Tree.ofPayload fields
    <*> Payload.optional ["settings"] defaultLook (record orAttributes lookOf) fields
    <*> Payload.optional ["order"] 0 integer fields

def ofPayload (orAttributes : Bool) : Payload.Reader Page := record orAttributes (ofFields orAttributes)

end Page

end ReportCompiler
