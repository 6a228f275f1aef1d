import Mathlib.Data.List.Flatten
import Mathlib.Data.List.Nodup
import Mathlib.Data.List.Perm.Subperm
import ReportCompiler.Proofs.Compile.Branch
import ReportCompiler.Proofs.Compile.Place
import ReportCompiler.Proofs.Template.Ancestry

/-!
Compiling a forest. Where every widget is a child at most once and children make no cycle, the walk meets
each widget once, and the document is what recursion over the branches makes.
-/

namespace ReportCompiler

open ReportCompiler.Text

/-- Ids are keys, listed children exist and are listed once, and no chain of children is a cycle. -/
structure Tree.IsForest (tree : Tree) : Prop where
  distinct : tree.keys.Nodup
  named : ∀ entry ∈ tree.nodes, entry.2.id = entry.1
  existing : ∀ child ∈ tree.listedChildren, child ∈ tree.keys
  once : tree.listedChildren.Nodup
  acyclic : tree.IsAcyclic

/-- A widget of a known kind that is visible, can be rendered, and has children only where its kind has
room for them. -/
structure Node.IsSound (s : Surroundings) (node : Node) : Prop where
  visible : node.IsVisible
  rendered : ∃ kind, Widget.Kind.ofName? node.type = some kind ∧
    (node.children ≠ [] → kind = .page ∨ kind = .container) ∧
    ∃ result, Own.render s kind.renderer node = .ok result

/-! ### Widgets of a forest -/

namespace Own

variable (s : Surroundings) (node : Node)

theorem shell_eq (kind : Widget.Kind) (result : Widget.Rendered)
    (standard : s.registry = .standard) (registered : Widget.Kind.ofName? node.type = some kind)
    (ok : Own.render s kind.renderer node = .ok result) : Own.shell s node = result := by
  have found : s.registry.find? node.type = some kind.renderer := by
    simp [standard, Widget.Registry.find?, registered, Widget.Registry.standard]
  simp only [Own.shell, found, ok]

theorem rendered_of_room (holds : Bool) (result : Widget.Rendered) (earlier : List Finding)
    (written : result.html ≠ "") (room : node.children ≠ [] → holds = true) :
    rendered node holds result earlier =
      { html := result.html, components := result.component.toList, findings := earlier,
        isShown := true, isOpen := !node.children.isEmpty } := by
  by_cases childless : node.children = []
  · simp [rendered, written, childless]
  · simp [rendered, written, room childless]

-- The element of a page or a container is still empty when it is rendered.
theorem render_closes (kind : Widget.Kind) (result : Widget.Rendered) (visible : node.IsVisible)
    (ok : Own.render s kind.renderer node = .ok result) (holds : kind.holdsChildren = true) :
    ∃ before, result.html = before ++ "</div>" := by
  obtain ⟨filled, tree, _, drawn, written⟩ :=
    render_eq_ok s kind node result (seen_of_isVisible node visible kind s.data) ok
  obtain ⟨style, rfl⟩ := kind.draw_eq_empty_frame s.now node.id _ tree drawn holds
  refine ⟨Markup.openTag "div" (Widget.attributes kind node.id
    (Widget.resolve kind.defaults filled) style []) ++ ">", ?_⟩
  rw [written, Widget.frame, Markup.write, Markup.writeAll]
  simp [String.append_assoc]

theorem ofNode_of_isSound (standard : s.registry = .standard) (sound : node.IsSound s) :
    Own.ofNode s node =
        { html := (Own.shell s node).html, components := (Own.shell s node).component.toList,
          findings := conditionFindings node, isShown := true,
          isOpen := !node.children.isEmpty } ∧
      Own.IsPlain s node := by
  obtain ⟨kind, registered, room, result, ok⟩ := sound.rendered
  have written := render_html_ne_empty s kind node result sound.visible ok
  have holds : node.children ≠ [] → kind.holdsChildren = true := by
    intro bearing
    rcases room bearing with rfl | rfl <;> rfl
  have whole : Own.ofNode s node = _ :=
    (ofNode_of_render s node kind result standard registered ok).trans
      (rendered_of_room node kind.holdsChildren result (conditionFindings node) written holds)
  have shell := shell_eq s node kind result standard registered ok
  rw [shell]
  refine ⟨whole, ?_, ?_, ?_⟩
  · rw [whole, shell]
  · rw [whole]
  · intro bearing
    rw [shell]
    exact render_closes s node kind result sound.visible ok (holds bearing)

end Own

/-! ### Walks through a forest -/

namespace Walk

variable {s : Surroundings} {tree : Tree} {parent : String} {parts : List Outline}
  {visits : List Visit}

theorem nodup_placed {keys reached : List String}
    (walk : Walk s tree parent keys reached parts visits) : (placed visits).Nodup :=
  walk.nodup_placedKeys.of_map Prod.fst

theorem placed_subset {keys reached : List String}
    (walk : Walk s tree parent keys reached parts visits) : placed visits ⊆ tree.nodes :=
  fun entry member => tree.mem_of_find? entry.1 entry.2 (walk.find?_of_placed entry member)

-- A widget is placed once, so that the children of all that are placed are listed in as many places.
theorem children_subperm {keys reached : List String}
    (walk : Walk s tree parent keys reached parts visits) :
    ((placed visits).flatMap fun entry => entry.2.children).Subperm tree.listedChildren := by
  obtain ⟨entries, same, sublist⟩ := List.subperm_of_subset walk.nodup_placed walk.placed_subset
  exact ⟨_, same.flatMap_right _, sublist.flatMap _⟩

-- No key is looked up twice: roots are nobody's children, and others are listed once.
theorem nodup_keys (forest : tree.IsForest)
    (walk : Walk s tree parent tree.rootKeys [] parts visits)
    (opened : ∀ entry ∈ placed visits, openChildren s entry.2 = entry.2.children) :
    (visits.map Visit.key).Nodup := by
  have children : (placed visits).flatMap (fun entry => openChildren s entry.2) =
      (placed visits).flatMap (fun entry => entry.2.children) :=
    List.flatMap_congr opened
  rw [walk.keys_perm.nodup_iff, children]
  have below := walk.children_subperm
  refine List.nodup_append.mpr ⟨tree.nodup_rootKeys forest.distinct, ?_, ?_⟩
  · obtain ⟨some, same, sublist⟩ := below
    exact same.nodup_iff.mp (forest.once.sublist sublist)
  · rintro key root other child rfl
    obtain ⟨node, _, free, _⟩ := (tree.mem_rootKeys_iff forest.distinct key).mp root
    exact free (below.subset child)

theorem key_mem_of_met (forest : tree.IsForest)
    (walk : Walk s tree parent tree.rootKeys [] parts visits)
    (opened : ∀ entry ∈ placed visits, openChildren s entry.2 = entry.2.children) :
    ∀ visit ∈ visits, visit.key ∈ tree.keys := by
  intro visit member
  have met := walk.keys_perm.mem_iff.mp (List.mem_map_of_mem (f := Visit.key) member)
  rcases List.mem_append.mp met with root | child
  · obtain ⟨node, found, _⟩ := (tree.mem_rootKeys_iff forest.distinct visit.key).mp root
    exact (tree.mem_keys_iff forest.distinct visit.key).mpr ⟨node, found⟩
  · obtain ⟨entry, inside, listed⟩ := List.mem_flatMap.mp child
    rw [opened entry inside] at listed
    have found := walk.find?_of_placed entry inside
    exact forest.existing visit.key
      (tree.mem_listedChildren entry.1 visit.key entry.2 found listed)

-- A widget that has been reached was placed by another visit of its key, and there is none.
theorem placed_of_again (walk : Walk s tree parent tree.rootKeys [] parts visits)
    (named : ∀ entry ∈ tree.nodes, entry.2.id = entry.1) (key : String) (node : Node)
    (member : .again key node ∈ visits) : key ∈ placedKeys visits := by
  obtain ⟨found, known⟩ := walk.visits_agree _ member
  rcases (mem_reachedAfter _ _ _).mp known with ⟨entry, earlier, sameId⟩ | impossible
  · have own := named entry (walk.placed_subset earlier)
    have here := named (key, node) (tree.mem_of_find? key node found)
    have sameKey : entry.1 = key := own.symm.trans (sameId.trans here)
    exact sameKey ▸ List.mem_map_of_mem earlier
  · cases impossible

theorem not_mem_again (forest : tree.IsForest)
    (walk : Walk s tree parent tree.rootKeys [] parts visits)
    (opened : ∀ entry ∈ placed visits, openChildren s entry.2 = entry.2.children) (key : String)
    (node : Node) : .again key node ∉ visits := by
  intro member
  obtain ⟨entry, earlier, sameKey⟩ :=
    List.mem_map.mp (walk.placed_of_again forest.named key node member)
  obtain ⟨other, met, placedHere⟩ := List.mem_filterMap.mp earlier
  have twice : other = .again key node := by
    refine List.inj_on_of_nodup_map (walk.nodup_keys forest opened) met member ?_
    cases other with
    | first otherKey otherNode =>
        cases placedHere
        exact sameKey
    | again _ _ => cases placedHere
    | missing _ _ => cases placedHere
  rw [twice] at placedHere
  cases placedHere

theorem firsts_of_forest (forest : tree.IsForest)
    (walk : Walk s tree parent tree.rootKeys [] parts visits)
    (opened : ∀ entry ∈ placed visits, openChildren s entry.2 = entry.2.children) :
    ∀ visit ∈ visits, visit.IsFirst := by
  intro visit member
  cases visit with
  | first key node => exact ⟨key, node, rfl⟩
  | again key node => exact absurd member (walk.not_mem_again forest opened key node)
  | missing parent key =>
      have absent : tree.find? key = none := walk.visits_agree _ member
      have present : key ∈ tree.keys := walk.key_mem_of_met forest opened _ member
      obtain ⟨node, found⟩ := (tree.mem_keys_iff forest.distinct key).mp present
      rw [absent] at found
      cases found

theorem placed_perm (forest : tree.IsForest)
    (walk : Walk s tree parent tree.rootKeys [] parts visits)
    (opened : ∀ entry ∈ placed visits, openChildren s entry.2 = entry.2.children) :
    (placed visits).Perm tree.nodes := by
  have firsts := walk.firsts_of_forest forest opened
  have covers : tree.keys ⊆ placedKeys visits := fun key member =>
    (walk.mem_placedKeys_iff firsts opened key).mpr
      (tree.reachedFrom_rootKeys forest.distinct forest.named forest.acyclic key member)
  have enough := forest.distinct.length_le_of_subset covers
  rw [Tree.keys, placedKeys, List.length_map, List.length_map] at enough
  exact (List.subperm_of_subset walk.nodup_placed walk.placed_subset).perm_of_length_le enough

end Walk

/-! ### The document of a forest -/

/-- What can be wrong with the shape of a template or with the type of a widget. -/
def structuralCodes : List String :=
  ["EMPTY_TREE", "NO_ROOTS", "CYCLE_DETECTED", "MISSING_CHILD", "CHILDREN_IGNORED",
    "UNKNOWN_WIDGET_TYPE"]

theorem conditionFindings_code (node : Node) :
    ∀ finding ∈ Own.conditionFindings node, finding.code ∉ structuralCodes := by
  intro finding member
  unfold Own.conditionFindings at member
  split at member
  · rw [List.mem_singleton.mp member]
    simp [Finding.code, structuralCodes]
  · cases member

theorem shell_closes (s : Surroundings) (node : Node) (standard : s.registry = .standard)
    (sound : node.IsSound s) (bearing : node.children ≠ []) :
    (Own.shell s node).html = Branch.opening (Own.shell s node).html ++ "</div>" := by
  obtain ⟨before, whole⟩ := (Own.ofNode_of_isSound s node standard sound).2.closes bearing
  rw [whole, Branch.opening_close]

/-- A forest is compiled by recursion over its branches: one for each root, every widget in one place. -/
theorem compile_forest (s : Surroundings) (tree : Tree) (standard : s.registry = .standard)
    (forest : tree.IsForest) (sound : ∀ entry ∈ tree.nodes, entry.2.IsSound s) :
    ∃ branches,
      branches.map Branch.key = tree.rootKeys ∧ Branch.GrowAll tree branches ∧
      (Branch.entriesAll branches).Perm tree.nodes ∧
      (∀ entry ∈ tree.nodes, entry.2.children ≠ [] →
        (Own.shell s entry.2).html = Branch.opening (Own.shell s entry.2).html ++ "</div>") ∧
      (compile s tree).html = join "\n" (Branch.fragments (Own.shell s) branches) ∧
      (compile s tree).components =
        (Branch.entriesAll branches).flatMap
          (fun entry => (Own.shell s entry.2).component.toList) ∧
      (compile s tree).widgetCount = tree.size ∧
      (tree.nodes ≠ [] →
        ∀ finding ∈ (compile s tree).findings, finding.code ∉ structuralCodes) := by
  have closed : ∀ entry ∈ tree.nodes, entry.2.children ≠ [] →
      (Own.shell s entry.2).html = Branch.opening (Own.shell s entry.2).html ++ "</div>" :=
    fun entry member bearing => shell_closes s entry.2 standard (sound entry member) bearing
  by_cases filled : tree.nodes = []
  -- Without widgets there are no branches, and the finding is that there are none.
  · have rootless : tree.rootKeys = [] := by simp [Tree.rootKeys, filled]
    have nothing : compile s tree = .nothing .emptyTree := by simp [compile, filled]
    refine ⟨[], rootless.symm, trivial, ?_, closed, ?_, ?_, ?_, fun full => absurd filled full⟩
    · simp [Branch.entriesAll, filled]
    · rw [nothing]
      rfl
    · rw [nothing]
      rfl
    · simp [nothing, Compiled.nothing, Tree.size, filled]
  · have rooted := tree.rootKeys_ne_nil forest.distinct forest.named forest.acyclic filled
    obtain ⟨visits, walk⟩ := Outline.ofTree_walk s tree forest.distinct ""
    have own : ∀ entry ∈ placed visits, _ := fun entry member =>
      Own.ofNode_of_isSound s entry.2 standard (sound entry (walk.placed_subset member))
    have plain : ∀ entry ∈ placed visits, Own.IsPlain s entry.2 :=
      fun entry member => (own entry member).2
    have opened : ∀ entry ∈ placed visits, openChildren s entry.2 = entry.2.children :=
      fun entry member => (plain entry member).openChildren_eq s entry.2
    have firsts := walk.firsts_of_forest forest opened
    have whole := walk.placed_perm forest opened
    obtain ⟨branches, keys, grow, entries, html⟩ := walk.exists_branches firsts plain
    rw [compile_of_roots s tree filled rooted]
    refine ⟨branches, keys, grow, entries ▸ whole, closed, ?_, ?_, ?_, fun _ => ?_⟩
    · exact congrArg (join "\n") html
    · refine (walk.componentsAll_eq.trans (Walk.flatMap_components visits)).trans ?_
      rw [entries]
      exact List.flatMap_congr fun entry member => by rw [(own entry member).1]
    · refine (walk.countAll_eq.trans (Walk.countP_isShown fun entry member => ?_)).trans ?_
      · rw [(own entry member).1]
      · rw [placedKeys, List.length_map, whole.length_eq, Tree.size]
    · intro finding member
      have listed := walk.findingsAll_eq.trans (Walk.flatMap_findings_of_firsts firsts)
      have found : finding ∈ Outline.findingsAll (Outline.ofTree s tree) := member
      rw [listed] at found
      obtain ⟨entry, inside, about⟩ := List.mem_flatMap.mp found
      rw [(own entry inside).1] at about
      exact conditionFindings_code entry.2 finding about

theorem compile_forest_nested :
    let tree : Tree :=
      { nodes := [("a", .bare "a" "Container" ["b"]), ("b", .bare "b" "Spacer" [])],
        rootId := none }
    tree.IsForest ∧ (∀ entry ∈ tree.nodes, entry.2.IsSound .plain) ∧
      (compile .plain tree).widgetCount = 2 := by
  intro tree
  have acyclic : tree.IsAcyclic := by
    refine tree.isAcyclic_of_rank (fun key => if key = "b" then 1 else 0) ?_
    rintro parent child ⟨node, found, listed, -⟩
    have member := tree.mem_of_find? parent node found
    simp only [tree, List.mem_cons, List.not_mem_nil, or_false, Prod.mk.injEq] at member
    rcases member with ⟨rfl, rfl⟩ | ⟨rfl, rfl⟩
    · rw [List.mem_singleton.mp listed]
      decide
    · cases listed
  have forest : tree.IsForest := by
    refine ⟨by decide, ?_, by decide, by decide, acyclic⟩
    simp [tree, Node.bare]
  have sound : ∀ entry ∈ tree.nodes, entry.2.IsSound .plain := by
    refine List.forall_mem_cons.mpr ⟨⟨?_, .container, rfl, fun _ => Or.inr rfl, _, rfl⟩,
      List.forall_mem_singleton.mpr ⟨?_, .spacer, rfl, fun bearing => absurd rfl bearing, _, rfl⟩⟩
    · simp [Node.IsVisible, Node.bare]
    · simp [Node.IsVisible, Node.bare]
  obtain ⟨_, _, _, _, _, _, _, count, _⟩ := compile_forest .plain tree rfl forest sound
  exact ⟨forest, sound, count⟩

end ReportCompiler
