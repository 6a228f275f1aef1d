import ReportCompiler.Value.Basic

/-!
Problems found while a template is compiled. They never end the compilation; each says how grave it is
and, where it can, which widget it is about.
-/

namespace ReportCompiler

inductive Severity where
  | error
  | warning
  | info
deriving DecidableEq, Repr, Inhabited

def Severity.name : Severity → String
  | error => "error"
  | warning => "warning"
  | info => "info"

/-- What a diagnostic is about. -/
inductive Finding where
  | emptyTree
  | noRoots
  | repeatedWidget (id : String)
  | unknownType (type id : String)
  | invalidCondition (id complaint : String)
  | renderFailed (id reason : String)
  | ignoredChildren (type id : String) (count : Nat)
  | missingChild (id child : String)
  | unresolvedBinding (path id : String)
  | assetNotInlined (url reason : String)
deriving DecidableEq, Repr, Inhabited

namespace Finding

def code : Finding → String
  | emptyTree => "EMPTY_TREE"
  | noRoots => "NO_ROOTS"
  | repeatedWidget _ => "CYCLE_DETECTED"
  | unknownType _ _ => "UNKNOWN_WIDGET_TYPE"
  | invalidCondition _ _ => "INVALID_CONDITION"
  | renderFailed _ _ => "RENDER_FAILED"
  | ignoredChildren _ _ _ => "CHILDREN_IGNORED"
  | missingChild _ _ => "MISSING_CHILD"
  | unresolvedBinding _ _ => "UNRESOLVED_BINDING"
  | assetNotInlined _ _ => "ASSET_INLINE_FAILED"

def severity : Finding → Severity
  | noRoots => .error
  | repeatedWidget _ => .error
  | renderFailed _ _ => .error
  | _ => .warning

def message : Finding → String
  | emptyTree => "Template has no widgets"
  | noRoots => "Every widget is a child of another widget; the tree has no root"
  | repeatedWidget id => "Widget " ++ id ++ " is reachable more than once; skipping repeat"
  | unknownType type _ => "Unknown component type: " ++ type
  | invalidCondition id complaint =>
      "Visibility condition on " ++ id ++ " cannot be parsed (" ++ complaint
        ++ "); widget stays visible"
  | renderFailed id reason => "Failed to render " ++ id ++ ": " ++ reason
  | ignoredChildren type id count =>
      type ++ " widget " ++ id ++ " cannot hold children; " ++ toString count ++ " ignored"
  | missingChild id child => "Widget " ++ id ++ " references missing child " ++ child
  | unresolvedBinding path id =>
      "Binding " ++ path ++ " on " ++ id ++ " does not resolve against the sample data"
  | assetNotInlined url reason => "Image " ++ url ++ " was not inlined: " ++ reason

/-- The widget that a finding is about. -/
def widget? : Finding → Option String
  | emptyTree => none
  | noRoots => none
  | assetNotInlined _ _ => none
  | repeatedWidget id => some id
  | unknownType _ id => some id
  | invalidCondition id _ => some id
  | renderFailed id _ => some id
  | ignoredChildren _ id _ => some id
  | missingChild id _ => some id
  | unresolvedBinding _ id => some id

/-- The finding as an object. -/
def value (finding : Finding) : Value :=
  .object [("level", .text finding.severity.name), ("code", .text finding.code),
    ("message", .text finding.message),
    ("widget_id", match finding.widget? with
      | some id => .text id
      | none => .null)]

end Finding

namespace Severity

/-- The findings of this severity. -/
def select (severity : Severity) (findings : List Finding) : List Finding :=
  findings.filter fun finding => finding.severity == severity

end Severity

end ReportCompiler
