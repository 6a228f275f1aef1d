import ReportCompiler.Condition.Token
import ReportCompiler.Value.Basic

/-!
Conditions as trees. Chains of `&&` and `||` are flat and hold at least two operands; parentheses leave
no trace.
-/

namespace ReportCompiler

/-- How two values are compared. -/
inductive Comparison where
  | same
  | different
  | equal
  | unequal
  | atLeast
  | atMost
  | above
  | below
deriving DecidableEq, Repr, Inhabited

namespace Comparison

def spelling : Comparison → String
  | same => "==="
  | different => "!=="
  | equal => "=="
  | unequal => "!="
  | atLeast => ">="
  | atMost => "<="
  | above => ">"
  | below => "<"

def all : List Comparison := [same, different, equal, unequal, atLeast, atMost, above, below]

def ofSpelling? (spelling : String) : Option Comparison :=
  all.find? fun comparison => comparison.spelling == spelling

end Comparison

inductive Condition where
  | literal (value : Value)
  | path (path : String)
  | negation (operand : Condition)
  | comparison (comparison : Comparison) (left right : Condition)
  | all (operands : List Condition)
  | any (operands : List Condition)
deriving Repr, Inhabited

end ReportCompiler
