import ReportCompiler.Text.Quoted
import ReportCompiler.Value.Json

/-!
Values as text. `plain` is the text of any value, as attributes and styles show it; texts inside
lists and objects are quoted there. `display` is what a reader of the report sees: nothing for null,
compact JSON for lists and objects.
-/

namespace ReportCompiler

open ReportCompiler.Text

namespace Moment

/-- An offset as a length of time in days, seconds and microseconds, the last two never negative. -/
def offsetParts (offset : Int) : List (String × Int) :=
  let seconds := Int.fdiv offset 1000000
  [("days", Int.fdiv seconds 86400), ("seconds", Int.fmod seconds 86400),
    ("microseconds", Int.fmod offset 1000000)].filter fun part => part.2 != 0

def offsetLiteral (offset : Int) : String :=
  if offset = 0 then "datetime.timezone.utc"
  else "datetime.timezone(datetime.timedelta("
    ++ join ", " ((offsetParts offset).map fun part => part.1 ++ "=" ++ toString part.2) ++ "))"

/-- A moment inside a list or an object; trailing zero fields are left out after the minute. -/
def literal (m : Moment) : String :=
  let fields := [m.date.year, m.date.month, m.date.day, m.hour, m.minute]
    ++ (if m.microsecond != 0 then [m.second, m.microsecond]
        else if m.second != 0 then [m.second] else [])
  let zone :=
    match m.offset with
    | none => []
    | some offset => ["tzinfo=" ++ offsetLiteral offset]
  "datetime.datetime(" ++ join ", " (fields.map toString ++ zone) ++ ")"

end Moment

def Date.literal (d : Date) : String :=
  "datetime.date(" ++ join ", " ([d.year, d.month, d.day].map toString) ++ ")"

/-- Numbers in plain text: a double always shows a point or an exponent, also a whole one. -/
def Number.plain : Number → String
  | .int n => toString n
  | .double x => x.text

namespace Value

mutual

/-- The text of a value that stands inside another one. -/
def literal : Value → String
  | null => "None"
  | bool b => if b then "True" else "False"
  | number n => n.plain
  | text s => quote s
  | date d => d.literal
  | moment m => m.literal
  | list items => "[" ++ join ", " (literalItems items) ++ "]"
  | object fields => "\x7b" ++ join ", " (literalFields fields) ++ "\x7d"

def literalItems : List Value → List String
  | [] => []
  | item :: rest => literal item :: literalItems rest

def literalFields : List (String × Value) → List String
  | [] => []
  | (key, value) :: rest => (quote key ++ ": " ++ literal value) :: literalFields rest

end

/-- The text of a value on its own: texts and dates are shown as they are. -/
def plain : Value → String
  | text s => s
  | date d => d.text
  | moment m => m.textWith " "
  | value => value.literal

/-- The text of a value in the report. -/
def display : Value → String
  | null => ""
  | text s => s
  | bool b => if b then "true" else "false"
  | number n => n.text
  | date d => d.text
  | moment m => m.textWith " "
  | value => value.json .compact

/-- The plain text of a value, empty when the value does not count as given. -/
def plainIfPresent (value : Value) : String := if value.isPresent then value.plain else ""

/-- Numbers in style declarations are written without a needless point. -/
def cssText : Value → String
  | number n => n.text
  | value => value.plain

end Value

end ReportCompiler
