/-!
What can be wrong with a payload, and where. Reading a payload does not stop at the first issue: the
issues of all fields are listed, in the order of the fields.
-/

namespace ReportCompiler

namespace Payload

inductive Problem where
  | missing
  | notText
  | notTruthValue
  | unreadableTruthValue
  | notInteger
  | unreadableInteger
  | integerTooLong
  | integerWithFraction
  | notFinite
  | notNumber
  | unreadableNumber
  | tooSmall
  | notPositive
  | notListed
  /-- An object was needed; a reader may also take other things that have fields. -/
  | notRecord (orAttributes : Bool)
  | notObject
  | notList
  /-- The value breaks a rule of its own. -/
  | refused
  | malformed
deriving DecidableEq, Repr, Inhabited

def Problem.code : Problem → String
  | missing => "missing"
  | notText => "string_type"
  | notTruthValue => "bool_type"
  | unreadableTruthValue => "bool_parsing"
  | notInteger => "int_type"
  | unreadableInteger => "int_parsing"
  | integerTooLong => "int_parsing_size"
  | integerWithFraction => "int_from_float"
  | notFinite => "finite_number"
  | notNumber => "float_type"
  | unreadableNumber => "float_parsing"
  | tooSmall => "greater_than_equal"
  | notPositive => "greater_than"
  | notListed => "enum"
  | notRecord orAttributes => if orAttributes then "model_attributes_type" else "model_type"
  | notObject => "dict_type"
  | notList => "list_type"
  | refused => "value_error"
  | malformed => "json_invalid"

/-- A problem and the keys and indexes that lead to it. -/
structure Issue where
  place : List String
  problem : Problem
deriving DecidableEq, Repr, Inhabited

/-- A value, or the issues that stand in its way. -/
inductive Checked (α : Type) where
  | valid (value : α)
  | invalid (issues : List Issue)
deriving Repr

namespace Checked

variable {α β : Type}

def map (f : α → β) : Checked α → Checked β
  | valid value => valid (f value)
  | invalid issues => invalid issues

/-- Both sides are checked, and the issues of both are kept. -/
def apply (f : Checked (α → β)) (x : Unit → Checked α) : Checked β :=
  match f, x () with
  | valid f, valid value => valid (f value)
  | valid _, invalid issues => invalid issues
  | invalid issues, valid _ => invalid issues
  | invalid issues, invalid others => invalid (issues ++ others)

instance : Functor Checked where
  map := map

instance : Applicative Checked where
  pure := valid
  seq := apply

/-- A second check on a value that passed the first. -/
def andThen (x : Checked α) (check : α → Checked β) : Checked β :=
  match x with
  | valid value => check value
  | invalid issues => invalid issues

def fail (place : List String) (problem : Problem) : Checked α := invalid [{ place, problem }]

/-- The same issues, further inside. -/
def within (outer : List String) : Checked α → Checked α
  | valid value => valid value
  | invalid issues =>
      invalid (issues.map fun issue => { issue with place := outer ++ issue.place })

def toExcept : Checked α → Except (List Issue) α
  | valid value => .ok value
  | invalid issues => .error issues

theorem apply_valid (f : α → β) (value : α) :
    apply (valid f) (fun _ => valid value) = valid (f value) := rfl

theorem within_nil (x : Checked α) : x.within [] = x := by
  cases x <;> simp [within]

end Checked

end Payload

end ReportCompiler
