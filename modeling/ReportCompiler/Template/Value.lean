import ReportCompiler.Template.Basic

/-!
Templates as values: every node under its key, in order, and every page with its look.
-/

namespace ReportCompiler

def Node.value (key : String) (node : Node) : Value :=
  .object [("key", .text key), ("id", .text node.id), ("type", .text node.type),
    ("props", .object node.props), ("children", .list (node.children.map .text)),
    ("custom", .object node.custom)]

def Tree.value (tree : Tree) : Value :=
  .object [("root_id", .ofOption (tree.rootId.map .text)),
    ("nodes", .list (tree.nodes.map fun (key, node) => node.value key))]

def Page.value (page : Page) : Value :=
  .object [("id", .text page.id), ("name", .text page.name), ("order", .int page.order),
    ("settings", .object [("background", .text page.background), ("padding", .number page.padding)]),
    ("canvas_state", page.canvas.value)]

end ReportCompiler
