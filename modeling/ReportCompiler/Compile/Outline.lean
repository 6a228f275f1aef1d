import ReportCompiler.Compile.Own

/-!
The outline of a document: the widgets that are reached from the roots, nested as they are reached. A
widget is placed where it is reached first; later references to its id, and references to keys that do
not exist, leave a mark each.
-/

namespace ReportCompiler

open ReportCompiler.Text

inductive Outline where
  | widget (own : Own) (parts : List Outline)
  /-- A widget whose id was reached before. -/
  | repeated (id : String)
  | missing (parent key : String)
deriving Repr

namespace Outline

/-! ### Building an outline -/

/-- Outlines and the ids that have been reached. -/
abbrev Reached (α : Type) := α × List String

/-- The children of a widget, one after the other. -/
def partsOf (tree : Tree) (parent : String) (place : Node → List String → Reached Outline) :
    List String → List String → Reached (List Outline)
  | [], reached => ([], reached)
  | key :: rest, reached =>
      match tree.find? key with
      | none =>
          let (parts, reached) := partsOf tree parent place rest reached
          (.missing parent key :: parts, reached)
      | some child =>
          let (part, reached) := place child reached
          let (parts, reached) := partsOf tree parent place rest reached
          (part :: parts, reached)

/-- The outline of a widget. Every widget that is placed has a new id, so `depth` can be the number of
widgets. -/
def place (s : Surroundings) (tree : Tree) : Nat → Node → List String → Reached Outline
  | depth, node, reached =>
      if reached.contains node.id then (.repeated node.id, reached)
      else
        let own := Own.ofNode s node
        let reached := node.id :: reached
        if own.isOpen then
          match depth with
          | 0 => (.widget own [], reached)
          | depth + 1 =>
              let (parts, reached) :=
                partsOf tree node.id (place s tree depth) node.children reached
              (.widget own parts, reached)
        else (.widget own [], reached)

/-- The outlines of several widgets, one after the other. -/
def placeAll (s : Surroundings) (tree : Tree) : List Node → List String → Reached (List Outline)
  | [], reached => ([], reached)
  | node :: rest, reached =>
      let (outline, reached) := place s tree tree.size node reached
      let (outlines, reached) := placeAll s tree rest reached
      (outline :: outlines, reached)

def ofTree (s : Surroundings) (tree : Tree) : List Outline := (placeAll s tree tree.roots []).1

/-! ### Reading an outline -/

/-- Children are put before the last closing tag of their container, if the container ends with it. -/
def splice (container children : String) : String :=
  let body := trimRight container.toList
  if "</div>".toList.isSuffixOf body then
    String.ofList (body.take (body.length - 6)) ++ "\n" ++ children ++ "\n</div>"
  else container

mutual

/-- The markup of an outline; a missing widget has none, not even empty markup. -/
def html? : Outline → Option String
  | widget own parts =>
      some (if own.isOpen then splice own.html (join "\n" (htmlAll parts)) else own.html)
  | repeated _ => some ""
  | missing _ _ => none

def htmlAll : List Outline → List String
  | [] => []
  | outline :: rest =>
      match html? outline with
      | some html => html :: htmlAll rest
      | none => htmlAll rest

end

mutual

def components : Outline → List Component
  | widget own parts => own.components ++ componentsAll parts
  | _ => []

def componentsAll : List Outline → List Component
  | [] => []
  | outline :: rest => components outline ++ componentsAll rest

end

mutual

def findings : Outline → List Finding
  | widget own parts => own.findings ++ findingsAll parts
  | repeated id => [.repeatedWidget id]
  | missing parent key => [.missingChild parent key]

def findingsAll : List Outline → List Finding
  | [] => []
  | outline :: rest => findings outline ++ findingsAll rest

end

mutual

/-- The number of widgets that were rendered. -/
def count : Outline → Nat
  | widget own parts => (if own.isShown then 1 else 0) + countAll parts
  | _ => 0

def countAll : List Outline → Nat
  | [] => 0
  | outline :: rest => count outline + countAll rest

end

end Outline

end ReportCompiler
