import ReportCompiler.Proofs.Template.Wrapping

/-!
Which payloads are templates. Only the shape of a payload decides: what must be text, an object or a list, and
where nothing may stand in its place.
-/

namespace ReportCompiler

open ReportCompiler.Payload

namespace Payload

variable {α β : Type}

/-! ### Values that are accepted -/

namespace Checked

end Checked

/-- What stands under the first of the names that is given, if one is, is such. -/
def Under (names : List String) (holds : Value → Prop) (fields : Fields) : Prop :=
  ∀ value, (names.findSome? fun name => fields.lookup name) = some value → holds value

end Payload

/-! ### Kinds of values -/

namespace Value

def IsText (value : Value) : Prop := ∃ s, value = .text s

/-- A list of texts. -/
def IsTexts (value : Value) : Prop := ∃ items, value = .list items ∧ ∀ item ∈ items, item.IsText

def IsObject (value : Value) : Prop := ∃ fields, value = .object fields

end Value

namespace Payload

end Payload

/-! ### Widgets -/

namespace Node

/-- What is to be the name of a type. -/
def typeOf : Value → Value
  | .object fields => Fields.get fields "resolvedName"
  | value => value

/-- The fields of a widget. An id and the name of a type need not be text where they do not count as given. -/
structure IsReadable (fields : Fields) : Prop where
  id : (fields.get "id").isPresent = true → (fields.get "id").IsText
  type : Under ["type"] (fun value => (typeOf value).isPresent = true → (typeOf value).IsText) fields
  props : Under ["props"] (fun value => value = .null ∨ value.IsObject) fields
  children : Under ["children", "nodes"] (fun value => value = .null ∨ value.IsTexts) fields
  custom : Under ["custom"] (fun value => value = .null ∨ value.IsObject) fields

end Node

/-! ### Templates -/

namespace Tree

/-- A map of widgets. -/
def IsWidgetMap (value : Value) : Prop :=
  ∃ entries, value = .object entries ∧
    ∀ entry ∈ entries, ∃ fields, entry.2 = .object fields ∧ Node.IsReadable fields

/-- The fields of a template. -/
structure IsReadable (fields : Fields) : Prop where
  widgets : Under ["nodes"] IsWidgetMap fields
  root : Under ["rootId", "rootNodeId", "root_id"] (fun value => value = .null ∨ value.IsText) fields

end Tree

end ReportCompiler
