import ReportCompiler.Proofs.Compile.Place
import ReportCompiler.Proofs.Widget.Rendering

/-!
Widgets that get lost. A compilation that finds nothing to complain about has rendered every widget that
is within reach of the roots; widgets out of reach are missing from the document, and nothing says so.
-/

namespace ReportCompiler

theorem compile_of_silent (s : Surroundings) (tree : Tree)
    (silent : (compile s tree).findings = []) :
    compile s tree = .ofOutlines (Outline.ofTree s tree) := by
  unfold compile at silent ⊢
  split at silent
  · cases silent
  · split at silent
    · cases silent
    · next filled rooted => rw [if_neg filled, if_neg rooted]

/-! ### Silent walks -/

namespace Walk

variable {s : Surroundings} {visits : List Visit}

theorem firsts_of_silent (silent : ∀ visit ∈ visits, visit.findings s = []) :
    ∀ visit ∈ visits, visit.IsFirst := by
  intro visit member
  have nothing := silent visit member
  cases visit with
  | first key node => exact ⟨key, node, rfl⟩
  | again key node => cases nothing
  | missing parent key => cases nothing

theorem placed_of_silent (silent : ∀ visit ∈ visits, visit.findings s = []) :
    ∀ entry ∈ placed visits, (Own.ofNode s entry.2).findings = [] := by
  intro entry member
  obtain ⟨visit, inside, same⟩ := List.mem_filterMap.mp member
  obtain ⟨key, node, rfl⟩ := firsts_of_silent silent visit inside
  cases same
  exact silent (.first key node) inside

end Walk

/-! ### Every widget -/

theorem length_eq_iff_of_subset (some all : List String) (distinct : some.Nodup)
    (whole : all.Nodup) (subset : some ⊆ all) :
    some.length = all.length ↔ all ⊆ some := by
  constructor
  · intro same key member
    refine Decidable.by_contra fun absent => ?_
    have longer := (List.nodup_cons.mpr ⟨absent, distinct⟩).length_le_of_subset
      (List.cons_subset.mpr ⟨member, subset⟩)
    rw [List.length_cons] at longer
    omega
  · intro covers
    exact Nat.le_antisymm (distinct.length_le_of_subset subset) (whole.length_le_of_subset covers)

theorem openChildren_of_silent (s : Surroundings) (node : Node)
    (standard : s.registry = .standard) (visible : node.IsVisible)
    (silent : (Own.ofNode s node).findings = []) : openChildren s node = node.children := by
  unfold openChildren
  rcases (Own.ofNode_silent s node standard visible silent).2 with opened | empty
  · rw [if_pos opened]
  · simp [empty]

theorem compile_widgetCount_eq_size_iff (s : Surroundings) (tree : Tree)
    (standard : s.registry = .standard) (distinct : tree.keys.Nodup)
    (visible : ∀ entry ∈ tree.nodes, entry.2.IsVisible)
    (silent : (compile s tree).findings = []) :
    (compile s tree).widgetCount = tree.size ↔
      ∀ key ∈ tree.keys, tree.ReachedFrom tree.rootKeys key := by
  obtain ⟨visits, walk⟩ := Outline.ofTree_walk s tree distinct ""
  have whole := compile_of_silent s tree silent
  rw [whole] at silent ⊢
  -- In silence every visit places a widget, which is shown and has all its children looked at.
  have quiet : ∀ visit ∈ visits, visit.findings s = [] := by
    have none_ := walk.findingsAll_eq.symm.trans silent
    exact List.flatMap_eq_nil_iff.mp none_
  have own : ∀ entry ∈ placed visits, (Own.ofNode s entry.2).isShown = true ∧
      openChildren s entry.2 = entry.2.children := by
    intro entry member
    have seen := visible entry (tree.mem_of_find? entry.1 entry.2 (walk.find?_of_placed entry member))
    have nothing := Walk.placed_of_silent quiet entry member
    exact ⟨(Own.ofNode_silent s entry.2 standard seen nothing).1,
      openChildren_of_silent s entry.2 standard seen nothing⟩
  have count : (Compiled.ofOutlines (Outline.ofTree s tree)).widgetCount =
      (placedKeys visits).length :=
    walk.countAll_eq.trans (Walk.countP_isShown fun entry member => (own entry member).1)
  have size : tree.size = tree.keys.length := (List.length_map _).symm
  rw [count, size, length_eq_iff_of_subset _ _ walk.nodup_placedKeys distinct walk.placedKeys_subset]
  have reach := walk.mem_placedKeys_iff (Walk.firsts_of_silent quiet) fun entry member => (own entry member).2
  exact ⟨fun covers key member => (reach key).mp (covers member),
    fun within key member => (reach key).mpr (within key member)⟩

theorem compile_widgetCount_nested :
    let tree : Tree :=
      { nodes := [("a", .bare "a" "Container" ["b"]), ("b", .bare "b" "Spacer" [])],
        rootId := none }
    (compile .plain tree).findings = [] ∧ (compile .plain tree).widgetCount = tree.size := by
  intro tree
  have silent : (compile .plain tree).findings = [] := by decide +kernel
  have visible : ∀ entry ∈ tree.nodes, entry.2.IsVisible := by
    simp [tree, Node.IsVisible, Node.bare]
  refine ⟨silent, (compile_widgetCount_eq_size_iff .plain tree rfl (by decide) visible silent).mpr ?_⟩
  have above : tree.ReachedFrom tree.rootKeys "a" := .start "a" (by decide)
  have below : tree.ReachedFrom tree.rootKeys "b" :=
    .child "a" "b" (.bare "a" "Container" ["b"]) above rfl (by decide)
  intro key member
  simp only [tree, Tree.keys, List.map_cons, List.map_nil, List.mem_cons, List.not_mem_nil,
    or_false] at member
  rcases member with rfl | rfl
  · exact above
  · exact below

-- A widget that is its own child has no root above it; beside one that has, it is left out in silence.
theorem compile_omits_widget :
    let tree : Tree :=
      { nodes := [("a", .bare "a" "Spacer" []), ("b", .bare "b" "Container" ["b"])],
        rootId := none }
    (∀ entry ∈ tree.nodes, entry.2.IsVisible) ∧ (compile .plain tree).findings = [] ∧
      (compile .plain tree).widgetCount = 1 ∧ tree.size = 2 := by
  intro tree
  have visible : ∀ entry ∈ tree.nodes, entry.2.IsVisible := by
    simp [tree, Node.IsVisible, Node.bare]
  exact ⟨visible, by decide +kernel, by decide +kernel, rfl⟩

end ReportCompiler
