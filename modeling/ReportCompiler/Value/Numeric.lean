import ReportCompiler.Number.Reader
import ReportCompiler.Value.Display

/-!
Numbers found in data: a number itself, or the number that a text begins with. Lists of points and
labels are written by hand as text with commas, or given as lists.
-/

namespace ReportCompiler

open ReportCompiler.Text

namespace Number

/-- The number that a text begins with, after blanks and a sign. It is an integer when it has a whole
value and no point. -/
def ofLeading? (text : String) : Option Number :=
  let (negative, unsigned) := Reader.takeSign (trimLeft text.toList)
  (Reader.takeDecimal? unsigned).map fun parts =>
    let x := parts.toDouble negative
    match x.toInt? with
    | some n => if parts.pointed then .double x else .int n
    | none => .double x

/-- Where `value` lies between two bounds, from 0 to 100. Equal bounds leave no room. -/
def percentage (value low high : Number) : Except Fault Double := do
  if high.same low then return .zero
  let share ← (← value.sub low).div (← high.sub low)
  let scaled := share.mul (.ofInt 100)
  if !Number.lt (.int 0) (.double scaled) then return .zero
  else if Number.lt (.double scaled) (.int 100) then return scaled
  else return .ofInt 100

end Number

namespace Value

/-- The number in a value. Truth values are not numbers, and neither is a number that is not one. -/
def number? : Value → Option Number
  | number n => if n.isNaN then none else some n
  | text s => Number.ofLeading? s
  | _ => none

/-- A number that stands in for a missing one or for zero. -/
def numberOrZero (value : Value) : Number :=
  match value.number? with
  | some n => if n.isZero then .int 0 else n
  | none => .int 0

/-- Blank texts are no points, and neither is anything without a number. -/
def pointsOfItems (items : List Value) : List Number := items.filterMap number?

def points : Value → List Number
  | null => []
  | list items => pointsOfItems items
  | value => pointsOfItems ((split ',' value.plain).map text)

/-- Labels as written, in order; nothing stands for a missing list. -/
def writtenLabels : Value → List String
  | list items => items.map display
  | value =>
      if value.isPresent then
        ((split ',' value.plain).map trim).filter fun label => label != ""
      else []

def placeholderLabels (count : Nat) : List String :=
  (List.range count).map fun index => "Item " ++ toString (index + 1)

/-- The labels of a series of `count` points; numbered placeholders when none are written. -/
def labels (value : Value) (count : Nat) : List String :=
  let written := value.writtenLabels
  if written.isEmpty then placeholderLabels count else written

end Value

end ReportCompiler
