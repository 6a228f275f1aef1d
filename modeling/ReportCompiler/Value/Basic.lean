import ReportCompiler.Calendar.Basic
import ReportCompiler.Number.Basic

/-!
The values that templates and sample data hold. Objects keep their fields in order, and a key is
looked up at its first occurrence. Dates and moments can stand in sample data beside the values of
JSON.
-/

namespace ReportCompiler

inductive Value where
  | null
  | bool (b : Bool)
  | number (n : Number)
  | text (s : String)
  | date (d : Date)
  | moment (m : Moment)
  | list (items : List Value)
  | object (fields : List (String × Value))
deriving Repr, Inhabited, BEq

/-- Fields of an object, in order. -/
abbrev Fields := List (String × Value)

namespace Value

def int (n : Int) : Value := number (.int n)

def double (x : Double) : Value := number (.double x)

def isNull : Value → Bool
  | null => true
  | _ => false

/-- Whether a value counts as given: everything but null, false, zero, the empty text, the empty list
and the empty object. -/
def isPresent : Value → Bool
  | null => false
  | bool b => b
  | number n => !n.isZero
  | text s => s != ""
  | list items => !items.isEmpty
  | object fields => !fields.isEmpty
  | _ => true

/-- The value, or another one in its place when it does not count as given. -/
def orElse (value fallback : Value) : Value := if value.isPresent then value else fallback

def ofOption : Option Value → Value
  | some value => value
  | none => null

end Value

namespace Fields

/-- The value of a key; null when the key is missing. -/
def get (fields : Fields) (key : String) : Value := Value.ofOption (fields.lookup key)

def has (fields : Fields) (key : String) : Bool := (fields.lookup key).isSome

/-- A key keeps its place when its value changes and comes last when it is new. -/
def set (fields : Fields) (key : String) (value : Value) : Fields :=
  if fields.has key then fields.map fun field => if field.1 == key then (key, value) else field
  else fields ++ [(key, value)]

/-- Fields written one after the other; a repeated key keeps its first place and its last value. -/
def ofList (fields : List (String × Value)) : Fields :=
  fields.foldl (fun result field => result.set field.1 field.2) []

/-- The fields whose value is not null. -/
def withoutNulls (fields : Fields) : Fields := fields.filter fun field => !field.2.isNull

theorem get_nil (key : String) : Fields.get [] key = .null := rfl

theorem get_cons_self (key : String) (value : Value) (rest : Fields) :
    Fields.get ((key, value) :: rest) key = value := by
  simp [get, Value.ofOption]

theorem get_cons_of_ne {key other : String} (h : key ≠ other) (value : Value) (rest : Fields) :
    Fields.get ((other, value) :: rest) key = Fields.get rest key := by
  have : (key == other) = false := by simp [h]
  simp [get, List.lookup_cons, this]

end Fields

namespace Value

/-- The fields of an object; nothing else has any. -/
def fields? : Value → Except Fault Fields
  | object fields => .ok fields
  | _ => .error .notAnObject

/-- The value of a key in a value that must be an object. -/
def field (value : Value) (key : String) : Except Fault Value :=
  value.fields?.map (·.get key)

/-- What enumeration of a value yields: items of a list, keys of an object, characters of a text. -/
def items? : Value → Except Fault (List Value)
  | list items => .ok items
  | object fields => .ok (fields.map fun field => text field.1)
  | text s => .ok (s.toList.map fun c => text (String.singleton c))
  | _ => .error .notEnumerable

end Value

end ReportCompiler
