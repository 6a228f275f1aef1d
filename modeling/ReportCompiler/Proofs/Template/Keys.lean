import ReportCompiler.Template.Basic

/-!
The keys of a template: a map has each key once, so that a key finds the entry it came with. A widget is
within reach of some keys when a chain of children leads to it from one of them.
-/

namespace ReportCompiler

namespace Tree

def keys (tree : Tree) : List String := tree.nodes.map Prod.fst

/-- The keys of the roots, in the order of the map. -/
def rootKeys (tree : Tree) : List String :=
  (tree.nodes.filter fun entry =>
    !tree.listedChildren.contains entry.1 && !tree.listedChildren.contains entry.2.id).map Prod.fst

variable (tree : Tree)

theorem mem_of_find? (key : String) (node : Node) (found : tree.find? key = some node) :
    (key, node) ∈ tree.nodes := by
  obtain ⟨before, after, split, _⟩ := List.lookup_eq_some_iff.mp found
  rw [split]
  exact List.mem_append_right _ List.mem_cons_self

theorem find?_of_mem (distinct : tree.keys.Nodup) (key : String) (node : Node)
    (member : (key, node) ∈ tree.nodes) : tree.find? key = some node := by
  obtain ⟨before, after, split⟩ := List.append_of_mem member
  refine List.lookup_eq_some_iff.mpr ⟨before, after, split, ?_⟩
  intro entry earlier
  rw [keys, split, List.map_append, List.map_cons] at distinct
  have apart := (List.nodup_append.mp distinct).2.2 entry.1 (List.mem_map_of_mem earlier) key
    List.mem_cons_self
  simpa using Ne.symm apart

theorem mem_keys_iff (distinct : tree.keys.Nodup) (key : String) :
    key ∈ tree.keys ↔ ∃ node, tree.find? key = some node := by
  constructor
  · intro member
    obtain ⟨entry, inside, rfl⟩ := List.mem_map.mp member
    exact ⟨entry.2, tree.find?_of_mem distinct entry.1 entry.2 inside⟩
  · rintro ⟨node, found⟩
    exact List.mem_map.mpr ⟨(key, node), tree.mem_of_find? key node found, rfl⟩

theorem mem_listedChildren (key child : String) (node : Node)
    (found : tree.find? key = some node) (listed : child ∈ node.children) :
    child ∈ tree.listedChildren :=
  List.mem_flatMap.mpr ⟨(key, node), tree.mem_of_find? key node found, listed⟩

theorem mem_rootKeys_iff (distinct : tree.keys.Nodup) (key : String) :
    key ∈ tree.rootKeys ↔
      ∃ node, tree.find? key = some node ∧ key ∉ tree.listedChildren ∧
        node.id ∉ tree.listedChildren := by
  simp only [rootKeys, List.mem_map, List.mem_filter, Bool.and_eq_true, Bool.not_eq_true',
    List.contains_eq_mem, decide_eq_false_iff_not]
  constructor
  · rintro ⟨⟨_, node⟩, ⟨member, free, fresh⟩, rfl⟩
    exact ⟨node, tree.find?_of_mem distinct _ node member, free, fresh⟩
  · rintro ⟨node, found, free, fresh⟩
    exact ⟨(key, node), ⟨tree.mem_of_find? key node found, free, fresh⟩, rfl⟩

theorem nodup_rootKeys (distinct : tree.keys.Nodup) : tree.rootKeys.Nodup :=
  distinct.sublist (List.filter_sublist.map Prod.fst)

/-! ### Other widgets under the same keys -/

/-- The template with every widget changed, by its key. -/
def mapNodes (f : String → Node → Node) (tree : Tree) : Tree :=
  { tree with nodes := tree.nodes.map fun entry => (entry.1, f entry.1 entry.2) }

theorem find?_mapNodes (f : String → Node → Node) (key : String) :
    (tree.mapNodes f).find? key = (tree.find? key).map (f key) := by
  obtain ⟨nodes, rootId⟩ := tree
  induction nodes with
  | nil => rfl
  | cons entry rest ih =>
      obtain ⟨name, node⟩ := entry
      simp only [find?, mapNodes, List.map_cons, List.lookup_cons] at ih ⊢
      cases same : key == name with
      | true => rw [beq_iff_eq.mp same]; rfl
      | false => exact ih

/-! ### Reach -/

/-- A chain of children leads from one of the keys to this one. -/
inductive ReachedFrom (starts : List String) : String → Prop where
  | start (key : String) (member : key ∈ starts) : ReachedFrom starts key
  | child (key listed : String) (node : Node) (above : ReachedFrom starts key)
      (found : tree.find? key = some node) (member : listed ∈ node.children) :
      ReachedFrom starts listed

theorem not_reachedFrom_nil (key : String) : ¬ tree.ReachedFrom [] key := by
  intro reached
  induction reached with
  | start key member => cases member
  | child _ _ _ _ _ _ ih => exact ih

theorem ReachedFrom.mono (starts others : List String) (subset : starts ⊆ others) (key : String)
    (reached : tree.ReachedFrom starts key) : tree.ReachedFrom others key := by
  induction reached with
  | start key member => exact .start key (subset member)
  | child key listed node _ found member ih => exact .child key listed node ih found member

theorem ReachedFrom.trans (starts others : List String)
    (link : ∀ key ∈ others, tree.ReachedFrom starts key) (key : String)
    (reached : tree.ReachedFrom others key) : tree.ReachedFrom starts key := by
  induction reached with
  | start key member => exact link key member
  | child key listed node _ found member ih => exact .child key listed node ih found member

end Tree

end ReportCompiler
