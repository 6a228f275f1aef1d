import ReportCompiler.Binding.Path
import ReportCompiler.Condition.Parser
import ReportCompiler.Value.Equality

/-!
The value of a condition on sample data. A chain gives the operand that decides it. A condition that is
blank, broken or not text holds, and so does every condition where there is no data.
-/

namespace ReportCompiler

open ReportCompiler.Text

namespace Comparison

def isNumber : Value → Bool
  | .number _ => true
  | _ => false

/-- A text beside a number counts as the number that it spells. -/
def beside (other value : Value) : Value :=
  match other, value with
  | .number _, .text s =>
      match Reader.double? s with
      | some x => .double x
      | none => value
  | _, _ => value

/-- Whether two values are of one kind; all numbers are. -/
def sameKind : Value → Value → Bool
  | .null, .null => true
  | .bool _, .bool _ => true
  | .number _, .number _ => true
  | .text _, .text _ => true
  | .date _, .date _ => true
  | .moment _, .moment _ => true
  | .list _, .list _ => true
  | .object _, .object _ => true
  | _, _ => false

/-- Lists and objects found at one place are equal, whatever they hold. -/
def atOnePlace (left right : Path.Found) : Bool :=
  match left.value, left.place, right.place with
  | .number _, _, _ => false
  | _, some place, some other => place == other
  | _, _, _ => false

def strictlyEqual (left right : Path.Found) : Bool :=
  sameKind left.value right.value && (atOnePlace left right || left.value.equal right.value)

def looselyEqual (left right : Path.Found) : Bool :=
  strictlyEqual { left with value := beside right.value left.value }
    { right with value := beside left.value right.value }

/-- Order of two numbers or two texts; other values have none. -/
def ordered (byNumber : Number → Number → Bool) (byText : String → String → Bool)
    (left right : Value) : Bool :=
  match beside right left, beside left right with
  | .number m, .number n => byNumber m n
  | .text s, .text t => byText s t
  | _, _ => false

def holds : Comparison → Path.Found → Path.Found → Bool
  | same, left, right => strictlyEqual left right
  | different, left, right => !strictlyEqual left right
  | equal, left, right => looselyEqual left right
  | unequal, left, right => !looselyEqual left right
  | above, left, right =>
      ordered (fun m n => n.lt m) (fun s t => precedes t s) left.value right.value
  | atLeast, left, right =>
      ordered (fun m n => n.le m) (fun s t => !precedes s t) left.value right.value
  | below, left, right => ordered Number.lt precedes left.value right.value
  | atMost, left, right =>
      ordered Number.le (fun s t => !precedes t s) left.value right.value

end Comparison

namespace Condition

/-- The number of characters of a text or of items of a list. -/
def size? : Value → Option Nat
  | .text s => some s.length
  | .list items => some items.length
  | _ => none

/-- The value of the path with these parts, the last part first. The path `data` is the data itself, and
`length` at the end counts characters and items. -/
def findBackwards (data : Value) : List String → Except Fault Path.Found
  | [] => .ok .nothing
  | part :: before => do
      if part == "data" && before.isEmpty then return .root data
      let whole := Path.find (join "." (part :: before).reverse) data
      if part == "length" && !before.isEmpty then
        match size? (← findBackwards data before).value with
        | some size => return .count size
        | none => whole
      else whole

def findPath (path : String) (data : Value) : Except Fault Path.Found :=
  findBackwards data (split '.' path).reverse

mutual

def evaluate (data : Value) : Condition → Except Fault Path.Found
  | literal value => .ok { value, place := none }
  | path p => findPath p data
  | negation operand => do
      let found ← evaluate data operand
      return { value := .bool !found.value.isTruthy, place := none }
  | comparison c left right => do
      let first ← evaluate data left
      let second ← evaluate data right
      return { value := .bool (c.holds first second), place := none }
  | all operands => evaluateAll data operands .nothing
  | any operands => evaluateAny data operands .nothing

/-- The first operand that is not true, or the last one. -/
def evaluateAll (data : Value) : List Condition → Path.Found → Except Fault Path.Found
  | [], last => .ok last
  | operand :: rest, _ => do
      let found ← evaluate data operand
      if found.value.isTruthy then evaluateAll data rest found else return found

/-- The first operand that is true, or the last one. -/
def evaluateAny (data : Value) : List Condition → Path.Found → Except Fault Path.Found
  | [], last => .ok last
  | operand :: rest, _ => do
      let found ← evaluate data operand
      if found.value.isTruthy then return found else evaluateAny data rest found

end

/-- Whether a widget with this condition is shown. -/
def isMet (condition data : Value) : Except Fault Bool :=
  match condition with
  | .text s =>
      if isBlankText s || data.isNull then .ok true
      else
        match parse (trim s) with
        | .ok parsed => (evaluate data parsed).map fun found => found.value.isTruthy
        | .error _ => .ok true
  | _ => .ok true

end Condition

end ReportCompiler
