import Mathlib.Data.List.Basic
import ReportCompiler.Compile.Basic
import ReportCompiler.Proofs.Preview.Lookups
import ReportCompiler.Proofs.Template.Keys
import ReportCompiler.Proofs.Widget.Rendering

/-!
Templates whose widgets have settings that answer alike. What a widget contributes depends on nothing but
what its settings answer when they are looked up, with data filled in or without, so that a null may as well
be left out.
-/

namespace ReportCompiler

open ReportCompiler.Widget

/-! ### Single widgets -/

namespace Own

section SameAnswers

variable (s : Surroundings) (kind : Kind) (node : Node) (others : Fields)
  (alike : node.props.Alike others)
include alike

theorem render_of_alike :
    Own.render s kind.renderer { node with props := others } = Own.render s kind.renderer node := by
  have asked := resolve_congr kind.defaults node.props others alike
  unfold Own.render
  split
  · exact kind.render_congr node.id node.props others asked s.now
  -- With data, the settings are looked up once it is filled in, and again for the entry as they are.
  · refine (Attempt.eq_of_related _ _ ?_).symm
    refine (Preview.bound_alike alike s.data kind).bind _ _ fun filled otherFilled fills => ?_
    have drawn := resolve_congr kind.defaults filled otherFilled fills
    rw [kind.render_congr node.id filled otherFilled drawn,
      kind.component_congr node.id node.props others asked]
    exact .refl _

theorem ofNode_of_alike (standard : s.registry = .standard)
    (registered : Kind.ofName? node.type = some kind) :
    Own.ofNode s { node with props := others } = Own.ofNode s node := by
  have same := render_of_alike s kind node others alike
  have findings : conditionFindings { node with props := others } = conditionFindings node := by
    simp only [conditionFindings, alike.get_eq]
  cases attempt : Own.render s kind.renderer node with
  | ok result =>
      rw [ofNode_of_render s node kind result standard registered attempt,
        ofNode_of_render s { node with props := others } kind result standard registered
          (same.trans attempt), findings]
      rfl
  | error fault =>
      rw [ofNode_of_fault s node kind fault standard registered attempt,
        ofNode_of_fault s { node with props := others } kind fault standard registered
          (same.trans attempt), findings]
      rfl

end SameAnswers

end Own

/-! ### Other widgets in the same places -/

/-- The other widget stands where this one does, and contributes the same. -/
structure Node.Matches (s : Surroundings) (node other : Node) : Prop where
  id : other.id = node.id
  children : other.children = node.children
  own : Own.ofNode s other = Own.ofNode s node

section MapNodes

variable (f : String → Node → Node) (s : Surroundings) (tree : Tree)

namespace Outline

/-- The children under the same keys are placed alike where each of them is. -/
theorem partsOf_mapNodes (parent : String) (first second : Node → List String → Reached Outline)
    (same : ∀ entry ∈ tree.nodes, ∀ reached, second (f entry.1 entry.2) reached = first entry.2 reached)
    (keys reached : List String) :
    partsOf (tree.mapNodes f) parent second keys reached = partsOf tree parent first keys reached := by
  induction keys generalizing reached with
  | nil => rfl
  | cons key rest ih =>
      rw [partsOf, partsOf, tree.find?_mapNodes f key]
      cases found : tree.find? key with
      | none => simp only [Option.map_none, ih]
      | some child =>
          have here := same (key, child) (tree.mem_of_find? key child found) reached
          simp only [Option.map_some, here, ih]

end Outline

variable (each : ∀ entry ∈ tree.nodes, entry.2.Matches s (f entry.1 entry.2))
include each

theorem Tree.listedChildren_mapNodes : (tree.mapNodes f).listedChildren = tree.listedChildren := by
  rw [listedChildren, mapNodes, List.flatMap_map]
  exact List.flatMap_congr fun entry member => (each entry member).children

/-- The roots stand under the same keys. -/
theorem Tree.exists_roots_mapNodes : ∃ entries ⊆ tree.nodes, tree.roots = entries.map Prod.snd ∧
    (tree.mapNodes f).roots = entries.map fun entry => f entry.1 entry.2 := by
  refine ⟨_, List.filter_sublist.subset, rfl, ?_⟩
  rw [roots, listedChildren_mapNodes f s tree each, mapNodes, List.filter_map, List.map_map]
  refine congrArg _ (List.filter_congr fun entry member => ?_)
  simp only [Function.comp, (each entry member).id]

namespace Outline

theorem place_mapNodes (depth : Nat) (entry : String × Node) (listed : entry ∈ tree.nodes)
    (reached : List String) :
    place s (tree.mapNodes f) depth (f entry.1 entry.2) reached = place s tree depth entry.2 reached := by
  induction depth generalizing entry reached with
  | zero =>
      have same := each entry listed
      simp only [place, same.id, same.own]
  | succ depth ih =>
      have same := each entry listed
      have inside := partsOf_mapNodes f tree entry.2.id (place s tree depth)
        (place s (tree.mapNodes f) depth) ih
      simp only [place, same.id, same.own, same.children, inside]

theorem placeAll_mapNodes (entries : List (String × Node)) (listed : entries ⊆ tree.nodes)
    (reached : List String) :
    placeAll s (tree.mapNodes f) (entries.map fun entry => f entry.1 entry.2) reached =
      placeAll s tree (entries.map Prod.snd) reached := by
  have size : (tree.mapNodes f).size = tree.size := List.length_map _
  induction entries generalizing reached with
  | nil => rfl
  | cons entry rest ih =>
      obtain ⟨here, later⟩ := List.cons_subset.mp listed
      simp only [List.map_cons, placeAll, size, place_mapNodes f s tree each tree.size entry here, ih later]

end Outline

/-- Widgets that match those of a template, each under its key, make the same document. -/
theorem compile_mapNodes : compile s (tree.mapNodes f) = compile s tree := by
  obtain ⟨entries, listed, roots, others⟩ := tree.exists_roots_mapNodes f s each
  have outline : Outline.ofTree s (tree.mapNodes f) = Outline.ofTree s tree := by
    rw [Outline.ofTree, Outline.ofTree, roots, others,
      Outline.placeAll_mapNodes f s tree each entries listed]
  have empty : (tree.mapNodes f).nodes.isEmpty = tree.nodes.isEmpty := List.isEmpty_map
  have rootless : (tree.mapNodes f).roots.isEmpty = tree.roots.isEmpty := by
    rw [roots, others, List.isEmpty_map, List.isEmpty_map]
  rw [compile, compile, empty, rootless, outline]

end MapNodes

/-! ### Nulls -/

/-- A widget of a known type without the nulls under the chosen names; any other widget as it is. -/
def Node.withoutNullsUnder (chosen : String → Bool) (node : Node) : Node :=
  if (Kind.ofName? node.type).isSome then { node with props := node.props.withoutNullsUnder chosen }
  else node

/-- The template without the chosen nulls, chosen by the key of the widget and the name of the setting. -/
def Tree.withoutNullsUnder (chosen : String → String → Bool) (tree : Tree) : Tree :=
  tree.mapNodes fun key => Node.withoutNullsUnder (chosen key)

theorem Node.matches_withoutNullsUnder (s : Surroundings) (standard : s.registry = .standard)
    (chosen : String → Bool) (node : Node) (distinct : (node.props.map Prod.fst).Nodup) :
    node.Matches s (node.withoutNullsUnder chosen) := by
  unfold withoutNullsUnder
  split
  · next known =>
      obtain ⟨kind, registered⟩ := Option.isSome_iff_exists.mp known
      exact ⟨rfl, rfl, Own.ofNode_of_alike s kind node _
        (Fields.alike_withoutNullsUnder chosen node.props distinct) standard registered⟩
  · exact ⟨rfl, rfl, rfl⟩

/-- A null setting is a missing one: whichever of them are left out, and whatever the data, the document, its
entries, what is found and the number of widgets stay the same. -/
theorem compile_withoutNullsUnder (s : Surroundings) (tree : Tree) (chosen : String → String → Bool)
    (standard : s.registry = .standard)
    (distinct : ∀ entry ∈ tree.nodes, (entry.2.props.map Prod.fst).Nodup) :
    compile s (tree.withoutNullsUnder chosen) = compile s tree :=
  compile_mapNodes _ s tree fun entry member =>
    entry.2.matches_withoutNullsUnder s standard (chosen entry.1) (distinct entry member)

-- The text and the labels come from the data; a widget of unknown type keeps its null.
theorem compile_withoutNullsUnder_filled :
    let text : Node :=
      { Node.bare "t" "Text" [] with
        props := [("text", .null), ("binding", .text "name"), ("color", .null)] }
    let chart : Node :=
      { Node.bare "c" "Chart" [] with props := [("labels", .null), ("binding", .text "points")] }
    let other : Node := { Node.bare "o" "Map" [] with props := [("text", .null)] }
    let tree : Tree := { nodes := [("t", text), ("c", chart), ("o", other)], rootId := none }
    let s : Surroundings :=
      { Surroundings.plain with
        data := .object [("name", .text "Sales"), ("points", .object
          [("data", .list [.int 1, .int 2]), ("labels", .list [.text "a", .text "b"])])] }
    let fewer := tree.withoutNullsUnder fun _ name => name == "text" || name == "labels"
    fewer.nodes.map (fun entry => entry.2.props.map Prod.fst) =
        [["binding", "color"], ["binding"], ["text"]] ∧
      compile s fewer = compile s tree := by
  intro text chart other tree s fewer
  exact ⟨by decide +kernel, compile_withoutNullsUnder s tree _ rfl (by decide)⟩

end ReportCompiler
