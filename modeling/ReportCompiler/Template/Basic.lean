import ReportCompiler.Value.Basic

/-!
Templates: widgets in a map by key, each with the keys of its children. The order of the map is the
order of the document; a widget's id need not be its key.
-/

namespace ReportCompiler

structure Node where
  id : String
  type : String
  props : Fields
  children : List String
  custom : Fields
deriving Repr, Inhabited, BEq

structure Tree where
  nodes : List (String × Node)
  /-- Said by the editor; the roots of a tree follow from its children. -/
  rootId : Option String
deriving Repr, Inhabited, BEq

/-- One page of a document. -/
structure Page where
  id : String
  name : String
  canvas : Tree
  background : String
  padding : Number
  order : Int
deriving Repr, Inhabited, BEq

namespace Tree

def empty : Tree := { nodes := [], rootId := none }

def find? (tree : Tree) (key : String) : Option Node := tree.nodes.lookup key

def size (tree : Tree) : Nat := tree.nodes.length

/-- All children that any widget lists. -/
def listedChildren (tree : Tree) : List String := tree.nodes.flatMap fun entry => entry.2.children

/-- Widgets that no widget lists as a child, neither by key nor by id, in the order of the map. -/
def roots (tree : Tree) : List Node :=
  let listed := tree.listedChildren
  (tree.nodes.filter fun entry => !listed.contains entry.1 && !listed.contains entry.2.id).map
    Prod.snd

end Tree

end ReportCompiler
