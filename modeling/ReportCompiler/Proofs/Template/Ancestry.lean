import Mathlib.Data.Fintype.Card
import Mathlib.Data.Fintype.EquivFin
import Mathlib.Data.Fintype.Sets
import ReportCompiler.Proofs.Template.Keys

/-!
Templates whose children make no cycle. A map is finite, so going up from parent to parent comes to an
end, and it can only end at a root: every widget is within reach of the roots.
-/

namespace ReportCompiler

namespace Tree

variable (tree : Tree)

/-- The widget under one key lists the other, which is a key of the template too. -/
def HasChild (parent child : String) : Prop :=
  ∃ node, tree.find? parent = some node ∧ child ∈ node.children ∧ child ∈ tree.keys

/-- No chain of children comes back to where it began. -/
def IsAcyclic : Prop := ∀ key, ¬ Relation.TransGen tree.HasChild key key

theorem HasChild.mem_keys (parent child : String) (link : tree.HasChild parent child) :
    parent ∈ tree.keys := by
  obtain ⟨node, found, _⟩ := link
  exact List.mem_map.mpr ⟨(parent, node), tree.mem_of_find? parent node found, rfl⟩

theorem isAcyclic_of_rank (rank : String → Nat)
    (deeper : ∀ parent child, tree.HasChild parent child → rank parent < rank child) :
    tree.IsAcyclic := by
  have along : ∀ first last, Relation.TransGen tree.HasChild first last →
      rank first < rank last := by
    intro first last chain
    induction chain with
    | single link => exact deeper _ _ link
    | tail _ link ih => exact Nat.lt_trans ih (deeper _ _ link)
  exact fun key loop => Nat.lt_irrefl _ (along key key loop)

-- The same chain, over the keys of the template as a finite type.
theorem transGen_of_subtype (first last : { key // key ∈ tree.keys })
    (chain : Relation.TransGen (fun above below : { key // key ∈ tree.keys } =>
      tree.HasChild above.1 below.1) first last) :
    Relation.TransGen tree.HasChild first.1 last.1 := by
  induction chain with
  | single link => exact .single link
  | tail _ link ih => exact .tail ih link

theorem wellFounded_hasChild (acyclic : tree.IsAcyclic) :
    WellFounded fun above below : { key // key ∈ tree.keys } =>
      tree.HasChild above.1 below.1 := by
  let chain := Relation.TransGen fun above below : { key // key ∈ tree.keys } =>
    tree.HasChild above.1 below.1
  have transitive : IsTrans _ chain := ⟨fun _ _ _ => Relation.TransGen.trans⟩
  have irreflexive : Std.Irrefl chain :=
    ⟨fun key loop => acyclic key.1 (tree.transGen_of_subtype key key loop)⟩
  have single : ∀ above below, tree.HasChild above.1 below.1 → chain above below :=
    fun _ _ link => .single link
  -- A transitive relation without loops has no endless descent among finitely many keys.
  have founded : WellFounded chain := Finite.wellFounded_of_trans_of_irrefl chain
  exact Subrelation.wf (single _ _) founded

/-- What holds of a widget whenever it holds of those that list it holds of all. -/
theorem forall_keys_of_parents (acyclic : tree.IsAcyclic) (holds : String → Prop)
    (step : ∀ key ∈ tree.keys, (∀ parent, tree.HasChild parent key → holds parent) → holds key) :
    ∀ key ∈ tree.keys, holds key := by
  intro key member
  have all := (tree.wellFounded_hasChild acyclic).induction
    (C := fun key : { key // key ∈ tree.keys } => holds key.1) ⟨key, member⟩
  refine all ?_
  intro below ih
  refine step below.1 below.2 ?_
  intro parent link
  exact ih ⟨parent, link.mem_keys tree parent below.1⟩ link

theorem reachedFrom_rootKeys (distinct : tree.keys.Nodup)
    (named : ∀ entry ∈ tree.nodes, entry.2.id = entry.1) (acyclic : tree.IsAcyclic) :
    ∀ key ∈ tree.keys, tree.ReachedFrom tree.rootKeys key := by
  refine tree.forall_keys_of_parents acyclic _ ?_
  intro key member ih
  -- Either some widget lists the key, and was reached before, or the key is a root's.
  by_cases listed : key ∈ tree.listedChildren
  · obtain ⟨entry, inside, child⟩ := List.mem_flatMap.mp listed
    have found := tree.find?_of_mem distinct entry.1 entry.2 inside
    exact .child entry.1 key entry.2 (ih entry.1 ⟨entry.2, found, child, member⟩) found child
  · obtain ⟨node, found⟩ := (tree.mem_keys_iff distinct key).mp member
    have same : node.id = key := named (key, node) (tree.mem_of_find? key node found)
    exact .start key ((tree.mem_rootKeys_iff distinct key).mpr
      ⟨node, found, listed, same.symm ▸ listed⟩)

/-- A template without cycles that has widgets has roots. -/
theorem rootKeys_ne_nil (distinct : tree.keys.Nodup)
    (named : ∀ entry ∈ tree.nodes, entry.2.id = entry.1) (acyclic : tree.IsAcyclic)
    (filled : tree.nodes ≠ []) : tree.rootKeys ≠ [] := by
  intro rootless
  obtain ⟨entry, rest, split⟩ := List.exists_cons_of_ne_nil filled
  have member : entry.1 ∈ tree.keys := by
    rw [keys, split]
    exact List.mem_cons_self
  have reached := tree.reachedFrom_rootKeys distinct named acyclic entry.1 member
  rw [rootless] at reached
  exact tree.not_reachedFrom_nil entry.1 reached

/-! ### Roots above -/

-- Every widget on the way has children, so that only the last key could be missing.
theorem exists_chain_of_reachedFrom (starts : List String) (key : String)
    (reached : tree.ReachedFrom starts key) (present : key ∈ tree.keys) :
    ∃ start ∈ starts, Relation.ReflTransGen tree.HasChild start key := by
  induction reached with
  | start key member => exact ⟨key, member, .refl⟩
  | child key listed node _ found member ih =>
      have above : key ∈ tree.keys := List.mem_map_of_mem (tree.mem_of_find? key node found)
      obtain ⟨start, first, chain⟩ := ih above
      exact ⟨start, first, chain.tail ⟨node, found, member, present⟩⟩

theorem exists_root_of_mem_rootKeys (named : ∀ entry ∈ tree.nodes, entry.2.id = entry.1) (key : String)
    (member : key ∈ tree.rootKeys) : ∃ root ∈ tree.roots, root.id = key := by
  obtain ⟨entry, kept, rfl⟩ := List.mem_map.mp member
  exact ⟨entry.2, List.mem_map_of_mem kept, named entry (List.mem_filter.mp kept).1⟩

/-- Only cycles put widgets out of reach: a template without them has roots, and from one of them a chain of
children comes down to any widget. -/
theorem exists_root_above (distinct : tree.keys.Nodup)
    (named : ∀ entry ∈ tree.nodes, entry.2.id = entry.1) (acyclic : tree.IsAcyclic)
    (filled : tree.nodes ≠ []) :
    tree.roots ≠ [] ∧ ∀ key ∈ tree.keys,
      ∃ root ∈ tree.roots, Relation.ReflTransGen tree.HasChild root.id key := by
  have above : ∀ key ∈ tree.keys,
      ∃ root ∈ tree.roots, Relation.ReflTransGen tree.HasChild root.id key := by
    intro key present
    have reached := tree.reachedFrom_rootKeys distinct named acyclic key present
    obtain ⟨start, first, chain⟩ := tree.exists_chain_of_reachedFrom _ key reached present
    obtain ⟨root, member, rfl⟩ := tree.exists_root_of_mem_rootKeys named start first
    exact ⟨root, member, chain⟩
  obtain ⟨entry, member⟩ := List.exists_mem_of_ne_nil tree.nodes filled
  obtain ⟨root, first, _⟩ := above entry.1 (List.mem_map_of_mem member)
  exact ⟨List.ne_nil_of_mem first, above⟩

-- Two widgets share a child, and one lists a child that does not exist.
theorem exists_root_above_shared :
    let widget (id : String) (children : List String) : String × Node :=
      (id, { id, type := "Container", props := [], children, custom := [] })
    let tree : Tree :=
      { nodes := [widget "d" [], widget "b" ["d"], widget "a" ["b", "c", "x"], widget "c" ["d", "d"]],
        rootId := none }
    tree.IsAcyclic ∧ tree.roots.map Node.id = ["a"] ∧ Relation.ReflTransGen tree.HasChild "a" "d" := by
  intro widget tree
  have acyclic : tree.IsAcyclic := by
    refine tree.isAcyclic_of_rank (["a", "b", "c", "d"].idxOf ·) ?_
    rintro parent child ⟨node, found, listed, present⟩
    have member := tree.mem_of_find? parent node found
    have deeper : ∀ entry ∈ tree.nodes, ∀ child ∈ entry.2.children, child ∈ tree.keys →
        ["a", "b", "c", "d"].idxOf entry.1 < ["a", "b", "c", "d"].idxOf child := by decide
    exact deeper (parent, node) member child listed present
  have roots : tree.roots.map Node.id = ["a"] := by decide
  obtain ⟨_, above⟩ := tree.exists_root_above (by decide) (by decide) acyclic (by decide)
  obtain ⟨root, first, chain⟩ := above "d" (by decide)
  have only : root.id ∈ tree.roots.map Node.id := List.mem_map_of_mem first
  rw [roots, List.mem_singleton] at only
  rw [only] at chain
  exact ⟨acyclic, roots, chain⟩

end Tree

end ReportCompiler
