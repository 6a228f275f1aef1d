import ReportCompiler.Calendar.Iso
import ReportCompiler.Calendar.Pattern
import ReportCompiler.Value.Display

/-!
Moments found in data: a date or a moment itself, milliseconds since the start of 1970, or a text in
ISO notation.
-/

namespace ReportCompiler

open ReportCompiler.Text

namespace Moment

/-- Whole part of a ratio, rounded toward zero. -/
def wholePart (num : Int) (den : Nat) : Int := num.tdiv den

/-- Microseconds of an instant given in seconds. The fraction of a second is scaled as a double and
then rounded to a whole number of microseconds, a half going to the even one. -/
def microsecondsOf? (seconds : Double) : Option Int := do
  let (num, den) ← seconds.ratio?
  let whole := wholePart num den
  let fraction := Double.ofRatio false (num - whole * den) den
  let (scaledNum, scaledDen) ← (fraction.mul (.ofInt 1000000)).ratio?
  let rounded : Int := Double.roundDivEven scaledNum.natAbs scaledDen
  return whole * 1000000 + (if scaledNum < 0 then -rounded else rounded)

def ofMilliseconds? (n : Number) : Option Moment :=
  match n.div (.int 1000) with
  | .ok seconds => (microsecondsOf? seconds).bind ofEpoch?
  | .error _ => none

/-- A final `Z` is the offset zero. -/
def ofText? (text : String) : Option Moment :=
  let trimmed := trim text
  if trimmed == "" then none
  else Iso.moment? (if endsWith trimmed "Z" then dropBack 1 trimmed ++ "+00:00" else trimmed)

end Moment

namespace Value

def moment? : Value → Option Moment
  | moment m => some m
  | date d => some d.midnight
  | number n => Moment.ofMilliseconds? n
  | text s => Moment.ofText? s
  | _ => none

/-- The pattern that a date is shown by: the long date unless a format is given, the custom pattern
for the format of that name. -/
def datePattern (format custom : Value) : Except Fault Value :=
  if !format.isPresent then .ok (text DatePattern.long)
  else
    match format with
    | text "custom" => .ok (if custom.isPresent then custom else text DatePattern.iso)
    | text name => .ok (text (DatePattern.ofName name))
    | list _ => .error .notAKey
    | object _ => .error .notAKey
    | value => .ok value

/-- A date shown by a pattern, which must be text. -/
def formatMoment (pattern : Value) (m : Moment) : Except Fault String :=
  match pattern with
  | text s => .ok (DatePattern.format s m)
  | _ => .error .notAPattern

end Value

end ReportCompiler
