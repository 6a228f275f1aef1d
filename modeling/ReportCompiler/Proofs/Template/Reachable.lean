import ReportCompiler.Proofs.Template.Ancestry

/-!
The part of a template that is within reach of its roots. It is a forest just when none of its widgets is
listed twice: a cycle below a root would be entered somewhere, and the widget where it is entered would be
listed from outside the cycle and from inside.
-/

namespace ReportCompiler

namespace Tree

open Classical in
/-- The widgets within reach of the roots, in the order of the map. -/
noncomputable def reachable (tree : Tree) : Tree :=
  { tree with nodes := tree.nodes.filter fun entry => tree.ReachedFrom tree.rootKeys entry.1 }

/-- Every widget is listed as a child in one place at most, and no chain of children is a cycle. -/
structure HasForestShape (tree : Tree) : Prop where
  once : ∀ key ∈ tree.keys, tree.listedChildren.count key ≤ 1
  acyclic : tree.IsAcyclic

variable (tree : Tree)

/-! ### The part within reach -/

theorem mem_nodes_reachable (entry : String × Node) :
    entry ∈ tree.reachable.nodes ↔
      entry ∈ tree.nodes ∧ tree.ReachedFrom tree.rootKeys entry.1 := by
  simp [reachable]

theorem mem_keys_reachable (key : String) :
    key ∈ tree.reachable.keys ↔ key ∈ tree.keys ∧ tree.ReachedFrom tree.rootKeys key := by
  simp only [keys, List.mem_map, mem_nodes_reachable]
  constructor
  · rintro ⟨entry, ⟨member, reached⟩, rfl⟩
    exact ⟨⟨entry, member, rfl⟩, reached⟩
  · rintro ⟨⟨entry, member, rfl⟩, reached⟩
    exact ⟨entry, ⟨member, reached⟩, rfl⟩

theorem nodup_keys_reachable (distinct : tree.keys.Nodup) : tree.reachable.keys.Nodup :=
  distinct.sublist (List.filter_sublist.map Prod.fst)

theorem listedChildren_reachable_subset : tree.reachable.listedChildren ⊆ tree.listedChildren := by
  intro key listed
  obtain ⟨entry, member, child⟩ := List.mem_flatMap.mp listed
  exact List.mem_flatMap.mpr ⟨entry, ((tree.mem_nodes_reachable entry).mp member).1, child⟩

/-- Nobody lists a root. -/
theorem count_listedChildren_of_root (distinct : tree.keys.Nodup) (key : String)
    (root : key ∈ tree.rootKeys) : tree.reachable.listedChildren.count key = 0 := by
  obtain ⟨_, _, free, _⟩ := (tree.mem_rootKeys_iff distinct key).mp root
  exact List.count_eq_zero.mpr fun listed => free (tree.listedChildren_reachable_subset listed)

/-- A widget within reach that is not a root is listed within reach. -/
theorem one_le_count_listedChildren (key : String) (member : key ∈ tree.reachable.keys)
    (other : key ∉ tree.rootKeys) :
    1 ≤ tree.reachable.listedChildren.count key := by
  obtain ⟨_, reached⟩ := (tree.mem_keys_reachable key).mp member
  cases reached with
  | start _ root => exact absurd root other
  | child parent _ node above found child =>
      have inside : (parent, node) ∈ tree.reachable.nodes :=
        (tree.mem_nodes_reachable _).mpr ⟨tree.mem_of_find? parent node found, above⟩
      exact List.one_le_count_iff.mpr (List.mem_flatMap.mpr ⟨(parent, node), inside, child⟩)

/-! ### Forests -/

-- Two widgets that list the same child list it in two places.
theorem eq_of_listed_once (first second : String × Node) (child : String) (one : first ∈ tree.nodes)
    (two : second ∈ tree.nodes) (listed : child ∈ first.2.children)
    (again : child ∈ second.2.children) (once : tree.listedChildren.count child ≤ 1) :
    second = first := by
  obtain ⟨before, after, split⟩ := List.append_of_mem one
  rw [split, List.mem_append, List.mem_cons] at two
  have here := List.one_le_count_iff.mpr listed
  have placed (entries : List (String × Node)) (member : second ∈ entries) :
      1 ≤ (entries.flatMap fun entry => entry.2.children).count child :=
    List.one_le_count_iff.mpr (List.mem_flatMap.mpr ⟨second, member, again⟩)
  rw [listedChildren, split, List.flatMap_append, List.flatMap_cons, List.count_append,
    List.count_append] at once
  rcases two with early | same | late
  · have there := placed before early
    omega
  · exact same
  · have there := placed after late
    omega

-- By induction on the way down from a root: a loop through a widget enters it from the one widget that lists
-- it, so that there was a loop through this one before.
theorem isAcyclic_of_once (distinct : tree.keys.Nodup)
    (once : ∀ key ∈ tree.reachable.keys, tree.reachable.listedChildren.count key ≤ 1) :
    tree.reachable.IsAcyclic := by
  have below : ∀ key, tree.ReachedFrom tree.rootKeys key →
      ¬ Relation.TransGen tree.reachable.HasChild key key := by
    intro key reached
    induction reached with
    | start key root =>
        intro loop
        obtain ⟨last, _, node, found, child, _⟩ := Relation.TransGen.tail'_iff.mp loop
        have listed := tree.reachable.mem_listedChildren last key node found child
        have unlisted := List.count_eq_zero.mp (tree.count_listedChildren_of_root distinct key root)
        exact unlisted listed
    | child parent key node above found child ih =>
        intro loop
        obtain ⟨last, chain, other, there, again, present⟩ := Relation.TransGen.tail'_iff.mp loop
        have inside : (parent, node) ∈ tree.reachable.nodes :=
          (tree.mem_nodes_reachable _).mpr ⟨tree.mem_of_find? parent node found, above⟩
        have same := tree.reachable.eq_of_listed_once (parent, node) (last, other) key inside
          (tree.reachable.mem_of_find? last other there) child again (once key present)
        obtain ⟨rfl, rfl⟩ := Prod.mk.inj same
        exact ih (.head' ⟨other, there, child, present⟩ chain)
  intro key loop
  obtain ⟨last, _, _, _, _, present⟩ := Relation.TransGen.tail'_iff.mp loop
  exact below key ((tree.mem_keys_reachable key).mp present).2 loop

theorem reachable_hasForestShape_iff (distinct : tree.keys.Nodup) :
    tree.reachable.HasForestShape ↔
      ∀ key ∈ tree.reachable.keys, key ∉ tree.rootKeys → tree.reachable.listedChildren.count key ≤ 1 := by
  refine ⟨fun forest key member _ => forest.once key member, fun once => ?_⟩
  have all : ∀ key ∈ tree.reachable.keys, tree.reachable.listedChildren.count key ≤ 1 := by
    intro key member
    by_cases root : key ∈ tree.rootKeys
    · have unlisted := tree.count_listedChildren_of_root distinct key root
      omega
    · exact once key member root
  exact ⟨all, tree.isAcyclic_of_once distinct all⟩

end Tree

end ReportCompiler
