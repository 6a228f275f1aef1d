import Mathlib.Data.List.Dedup
import ReportCompiler.Proofs.Compile.Forest
import ReportCompiler.Proofs.Compile.Preview

/-!
How far a walk goes. Whatever the children of a template refer to, every reference is followed once at most
and every id is placed once at most.
-/

namespace ReportCompiler

namespace Walk

variable {s : Surroundings} {tree : Tree} {parent : String} {keys reached : List String}
  {parts : List Outline} {visits : List Visit}

theorem openChildren_sublist (s : Surroundings) (node : Node) :
    (openChildren s node).Sublist node.children := by
  unfold openChildren
  split
  · exact List.Sublist.refl _
  · exact List.nil_sublist _

-- What is placed is placed once, so that its children are among all that are listed, each at its place.
theorem openChildren_subperm (walk : Walk s tree parent keys reached parts visits) :
    ((placed visits).flatMap fun entry => openChildren s entry.2).Subperm tree.listedChildren := by
  have opened : List.Sublist ((placed visits).flatMap fun entry => openChildren s entry.2)
      ((placed visits).flatMap fun entry => entry.2.children) :=
    List.Sublist.flatMap_right _ fun entry _ => openChildren_sublist s entry.2
  exact opened.subperm.trans walk.children_subperm

theorem length_le (walk : Walk s tree parent keys reached parts visits) :
    visits.length ≤ keys.length + tree.listedChildren.length := by
  have met := walk.keys_perm.length_eq
  rw [List.length_map, List.length_append] at met
  have below := walk.openChildren_subperm.length_le
  omega

theorem idsOf_placed_length_le (walk : Walk s tree parent keys reached parts visits) :
    (idsOf (placed visits)).length ≤ (idsOf tree.nodes).dedup.length := by
  refine walk.idsOf_placed_fresh.1.length_le_of_subset fun id member => ?_
  obtain ⟨entry, inside, rfl⟩ := List.mem_map.mp member
  exact List.mem_dedup.mpr (List.mem_map_of_mem (walk.placed_subset inside))

-- Only the first visit of a widget can show it.
theorem countP_isShown_le (visits : List Visit) :
    visits.countP (Visit.isShown s) ≤ (placed visits).length := by
  induction visits with
  | nil => exact Nat.le_refl 0
  | cons visit rest ih =>
      cases visit with
      | first key node =>
          rw [List.countP_cons, placed_first, List.length_cons]
          split <;> omega
      | again key node => simpa [Visit.isShown] using ih
      | missing parent key => simpa [Visit.isShown] using ih

end Walk

theorem Tree.Places.nodup_components_id {s : Surroundings} {tree : Tree}
    {entries : List (String × Node)} (places : tree.Places s entries)
    (standard : s.registry = .standard) :
    ((compile s tree).components.map Component.id).Nodup := by
  have each : List.Sublist ((compile s tree).components.map Component.id) (idsOf entries) := by
    rw [places.components_eq, List.map_flatMap, idsOf, ← List.flatMap_singleton' (entries.map _),
      List.flatMap_map]
    exact List.Sublist.flatMap_right entries fun entry _ =>
      Own.components_id_sublist s entry.2 standard
  exact each.nodup places.nodup_ids

/-- Whatever graph the children of a template make, its walk comes to an end after one visit for each root and
each listed child at most, and no id is rendered or entered twice. -/
theorem compile_visits_le (s : Surroundings) (tree : Tree) (standard : s.registry = .standard)
    (distinct : tree.keys.Nodup) :
    (∃ visits, Walk s tree "" tree.rootKeys [] (Outline.ofTree s tree) visits) ∧
      (∀ visits, Walk s tree "" tree.rootKeys [] (Outline.ofTree s tree) visits →
        visits.length ≤ tree.roots.length + tree.listedChildren.length) ∧
      (compile s tree).widgetCount ≤ (idsOf tree.nodes).dedup.length ∧
      ((compile s tree).components.map Component.id).Nodup := by
  obtain ⟨visits, walk⟩ := Outline.ofTree_walk s tree distinct ""
  have places : tree.Places s (placed visits) := ⟨visits, walk, rfl⟩
  refine ⟨⟨visits, walk⟩, fun others again => ?_, ?_, places.nodup_components_id standard⟩
  · have bound := again.length_le
    rwa [Tree.rootKeys, List.length_map, ← List.length_map (f := Prod.snd)] at bound
  · rw [(compile_of_walk s tree visits walk).2.2]
    have shown := Walk.countP_isShown_le (s := s) visits
    have few := walk.idsOf_placed_length_le
    rw [idsOf, List.length_map] at few
    exact Nat.le_trans shown few

-- Two entries have one id, one widget lists itself and its parent, and one child is missing.
theorem compile_visits_le_tangled :
    let tree : Tree :=
      { nodes := [("r", .bare "r" "Container" ["a", "b", "a", "gone"]),
          ("a", .bare "x" "Container" ["a", "b"]), ("b", .bare "x" "Spacer" [])],
        rootId := none }
    (compile .plain tree).findings.length = 5 ∧ (compile .plain tree).widgetCount = 2 ∧
      ∀ visits, Walk .plain tree "" tree.rootKeys [] (Outline.ofTree .plain tree) visits →
        visits.length ≤ 7 := by
  intro tree
  obtain ⟨_, bound, _, _⟩ := compile_visits_le .plain tree rfl (by decide)
  exact ⟨by decide +kernel, by decide +kernel, bound⟩

end ReportCompiler
