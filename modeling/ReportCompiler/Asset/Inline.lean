import ReportCompiler.Asset.Fetch
import ReportCompiler.Template.Basic

/-!
Images of a template put into the template itself. Every external address in a setting that holds
images is requested once, and replaced wherever it stands in such a setting if it could be fetched.
-/

namespace ReportCompiler

namespace Asset

/-- Addresses with what replaces them, the addresses that failed, and how each request counted. -/
structure Report where
  images : List (String × String)
  errors : List (String × String)
  requested : List String
  /-- For each request, whether it counts as a success. -/
  successes : List Bool
deriving Repr

namespace Report

def empty : Report := { images := [], errors := [], requested := [], successes := [] }

def succeeded (report : Report) : Nat := report.successes.count true

def failed (report : Report) : Nat := report.successes.count false

/-- What went wrong with a request. An empty message tells nothing, and does not count. -/
def complaint? (outcome : Outcome) : Option String :=
  match outcome.failure with
  | some failure => if failure.message == "" then none else some failure.message
  | none => none

def ofOutcomes (urls : List String) (outcomes : List Outcome) : Report :=
  let results := urls.zip outcomes
  { images := (results.filter fun (url, outcome) =>
      (complaint? outcome).isNone && outcome.url != url).map fun (url, outcome) => (url, outcome.url)
    errors := results.filterMap fun (url, outcome) =>
      (complaint? outcome).map fun complaint => (url, complaint)
    requested := urls
    successes := results.map fun (_, outcome) => (complaint? outcome).isNone }

end Report

/-! ### Replacement -/

mutual

def replaceIn (images : List (String × String)) : Value → Value
  | .text s => .text ((images.lookup s).getD s)
  | .list items => .list (replaceInItems images items)
  | .object fields => .object (replaceInFields images fields)
  | value => value

def replaceInItems (images : List (String × String)) : List Value → List Value
  | [] => []
  | item :: rest => replaceIn images item :: replaceInItems images rest

def replaceInFields (images : List (String × String)) :
    List (String × Value) → List (String × Value)
  | [] => []
  | (key, value) :: rest => (key, replaceIn images value) :: replaceInFields images rest

end

/-- Replacement in the settings that hold images, and in no others. -/
def replaceInProps (images : List (String × String)) (props : Fields) : Fields :=
  props.map fun (key, value) =>
    (key, if imageProps.contains key then replaceIn images value else value)

def replaceInTree (images : List (String × String)) (tree : Tree) : Tree :=
  { tree with nodes := tree.nodes.map fun (key, node) =>
      (key, { node with props := replaceInProps images node.props }) }

/-- The external images of a template, each once, in the order in which they occur. -/
def externalImages (tree : Tree) : List String :=
  ((tree.nodes.flatMap fun entry => imagesOf entry.2.props).eraseDups).filter isExternal

/-- The template with its images inside, and the report on them. -/
def inlineTree {m : Type → Type} [Monad m] (client : ClientIn m) (size : Nat) (tree : Tree) :
    m (Tree × Report) := do
  let urls := externalImages tree
  let report := Report.ofOutcomes urls (← processAll client true size urls)
  return (replaceInTree report.images tree, report)

end Asset

end ReportCompiler
