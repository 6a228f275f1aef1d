import ReportCompiler.Value.Basic

/-!
Truth and equality of values, as conditions see them. Equality goes by numeric value and ignores the
order of fields; inside lists and objects a truth value equals the number zero or one. Nothing equals a
number that is not one, so a value that holds one differs even from its own copy.
-/

namespace ReportCompiler

namespace Value

/-- Whether a condition takes a value for true: everything but null, false, zero, a number that is not
one and the empty text. Empty lists and objects are true. -/
def isTruthy : Value → Bool
  | null => false
  | bool b => b
  | number n => !n.isZero && !n.isNaN
  | text s => s != ""
  | _ => true

/-- Numbers, and truth values as zero and one. -/
def quantity? : Value → Option Number
  | bool b => some (.int (if b then 1 else 0))
  | number n => some n
  | _ => none

/-- Equality of values that hold no others. -/
def equalLeaf (left right : Value) : Bool :=
  match left.quantity?, right.quantity? with
  | some m, some n => m.same n
  | none, none =>
      match left, right with
      | null, null => true
      | text s, text t => s == t
      | date d, date e => d == e
      | moment m, moment n => m.sameInstant n
      | _, _ => false
  | _, _ => false

mutual

def equal : Value → Value → Bool
  | list items, list others => equalItems items others
  | object fields, object others =>
      fields.length == others.length && equalFields fields others
  | left, right => equalLeaf left right

def equalItems : List Value → List Value → Bool
  | [], [] => true
  | item :: rest, other :: others => equal item other && equalItems rest others
  | _, _ => false

/-- Every field is found in the other object with an equal value. -/
def equalFields : List (String × Value) → List (String × Value) → Bool
  | [], _ => true
  | (key, value) :: rest, others =>
      (match others.lookup key with
        | some other => equal value other
        | none => false) && equalFields rest others

end

end Value

end ReportCompiler
