import ReportCompiler.Number.Places
import ReportCompiler.Value.Display

/-!
Values with a fixed number of decimal places. A text is rounded as the decimal that it spells; what
spells none is shown as it is.
-/

namespace ReportCompiler

namespace Value

/-- The text of a value among numbers. -/
def numberText : Value → String
  | bool b => if b then "true" else "false"
  | number n => n.text
  | value => value.plain

/-- The decimal that a value stands for. -/
def decimal? : Value → Option Decimal
  | number n => Decimal.ofNumber? n
  | text s => Decimal.ofText? s
  | _ => none

/-- A number that is not one keeps its name, whatever the number of places. -/
def nanText? : Value → Option String
  | number n => if n.isNaN then some n.text else none
  | text s => Decimal.notANumber? s
  | _ => none

/-- Rounded text. A negative number of places is a fault of the caller, found once the value has been
rounded. -/
def fixed (places : Int) (value : Value) : Except Fault String :=
  if places < 0 then
    if value.nanText?.isSome || (value.decimal?.bind (Decimal.rescale? places)).isSome then
      .error .negativePlaces
    else .ok value.numberText
  else
    match value.nanText? with
    | some name => .ok name
    | none => .ok ((value.decimal?.bind (Decimal.toPlaces? places.toNat)).getD value.numberText)

end Value

end ReportCompiler
