import ReportCompiler.Value.Numeric

/-!
The series that bound data gives to a chart: points, and labels where the data has any.
-/

namespace ReportCompiler

open ReportCompiler.Text

/-- Points and labels of a chart; no labels where the data says nothing about them. -/
structure Series where
  points : List Number
  labels : Option (List Value)
deriving Repr

namespace Series

def itemLabel (item : Value) : Except Fault Value := do
  return .text (← item.field "label").display

/-- The point in an item: the value of an object, or the item itself. -/
def itemPoint : Value → Value
  | .object fields => Fields.get fields "value"
  | item => item

/-- Objects with a label and a value; labels are read where the first object has one. -/
def ofObjects (first : Fields) (items : List Value) : Except Fault Series := do
  let labels ← if first.has "label" then (items.mapM itemLabel).map some else pure none
  return { points := Value.pointsOfItems (items.map itemPoint), labels }

/-- A list of points, a list of objects, or an object with the two lists `data` and `labels`. -/
def ofValue? (value : Value) : Except Fault (Option Series) :=
  match value with
  | .object fields =>
      match Fields.get fields "data" with
      | .list items =>
          let labels :=
            match Fields.get fields "labels" with
            | .list labels => some labels
            | _ => none
          .ok (some { points := Value.pointsOfItems items, labels })
      | _ => .ok none
  | .list [] => .ok none
  | .list (.object first :: rest) => (ofObjects first (.object first :: rest)).map some
  | .list items => .ok (some { points := Value.pointsOfItems items, labels := none })
  | _ => .ok none

/-- The points as text, as a chart's own setting holds them. -/
def pointsText (series : Series) : String := join ", " (series.points.map Number.text)

end Series

end ReportCompiler
