import Mathlib.Algebra.BigOperators.Group.Finset.Basic
import ReportCompiler.Proofs.Compile.Alongside
import ReportCompiler.Proofs.Compile.Forest
import ReportCompiler.Proofs.Template.Reachable

/-!
References that are cut. Every reference to a widget either places it or is reported, so that each widget is
reported once for each time that it is listed within reach of the roots, save one.
-/

namespace ReportCompiler

/-! ### Visits that are cut -/

/-- The key of a widget that has its place already. -/
def Visit.repeated? : Visit → Option String
  | again key _ => some key
  | _ => none

def repeatedKeys (visits : List Visit) : List String := visits.filterMap Visit.repeated?

@[simp] theorem repeatedKeys_nil : repeatedKeys [] = [] := rfl

@[simp] theorem repeatedKeys_first (key : String) (node : Node) (visits : List Visit) :
    repeatedKeys (.first key node :: visits) = repeatedKeys visits := rfl

@[simp] theorem repeatedKeys_again (key : String) (node : Node) (visits : List Visit) :
    repeatedKeys (.again key node :: visits) = key :: repeatedKeys visits := rfl

@[simp] theorem repeatedKeys_missing (parent key : String) (visits : List Visit) :
    repeatedKeys (.missing parent key :: visits) = repeatedKeys visits := rfl

/-- Every reference to a widget that exists is charged once: to its place, or to a report. -/
theorem count_met (visits : List Visit) (key : String)
    (present : ∀ visit ∈ visits, ∀ parent, visit ≠ .missing parent key) :
    (visits.map Visit.key).count key = (placedKeys visits).count key + (repeatedKeys visits).count key := by
  induction visits with
  | nil => rfl
  | cons visit rest ih =>
      obtain ⟨here, later⟩ := List.forall_mem_cons.mp present
      have counted := ih later
      cases visit with
      | first other node =>
          simp only [placedKeys, List.map_cons, Visit.key, placed_first, repeatedKeys_first,
            List.count_cons] at counted ⊢
          omega
      | again other node =>
          simp only [placedKeys, List.map_cons, Visit.key, placed_again, repeatedKeys_again,
            List.count_cons] at counted ⊢
          omega
      | missing parent other =>
          have different : other ≠ key := by
            rintro rfl
            exact here parent rfl
          simpa [Visit.key, placedKeys, different] using counted

/-! ### Reports -/

/-- The report about a reference to a widget that has its place already. -/
def Finding.isRepeat (finding : Finding) : Bool := finding.code == "CYCLE_DETECTED"

theorem Own.findings_not_repeat (s : Surroundings) (node : Node) :
    ∀ finding ∈ (Own.ofNode s node).findings, finding.isRepeat = false := by
  have condition : ∀ finding ∈ conditionFindings node, finding.isRepeat = false := by
    unfold conditionFindings
    split <;> simp [Finding.isRepeat, Finding.code]
  unfold Own.ofNode
  split
  · simp [unknown, placeholder, Finding.isRepeat, Finding.code]
  · simp only
    split
    · rw [rendered]
      split
      · exact condition
      · refine List.forall_mem_append.mpr ⟨condition, ?_⟩
        split <;> simp [Finding.isRepeat, Finding.code]
    · exact List.forall_mem_append.mpr ⟨condition, by simp [Finding.isRepeat, Finding.code]⟩

theorem countP_isRepeat (s : Surroundings) (visits : List Visit) :
    (visits.flatMap (Visit.findings s)).countP Finding.isRepeat = (repeatedKeys visits).length := by
  induction visits with
  | nil => rfl
  | cons visit rest ih =>
      rw [List.flatMap_cons, List.countP_append, ih]
      cases visit with
      | first key node =>
          have own := List.countP_eq_zero.mpr fun finding member =>
            Bool.eq_false_iff.mp (Own.findings_not_repeat s node finding member)
          rw [Visit.findings, own, Nat.zero_add, repeatedKeys_first]
      | again key node =>
          rw [repeatedKeys_again, List.length_cons, Nat.add_comm]
          rfl
      | missing parent key => exact Nat.zero_add _

theorem rootFindings_not_repeat (tree : Tree) :
    (rootFindings tree).countP Finding.isRepeat = 0 := by
  unfold rootFindings
  split
  · split <;> rfl
  · rfl

/-! ### Walks -/

theorem openChildren_of_isSound (s : Surroundings) (node : Node) (standard : s.registry = .standard)
    (sound : node.children ≠ [] → node.IsSound s) : openChildren s node = node.children := by
  by_cases childless : node.children = []
  · simp [openChildren, childless]
  · rw [openChildren, (Own.ofNode_of_isSound s node standard (sound childless)).1]
    simp [childless]

namespace Walk

section Named

variable {s : Surroundings} {tree : Tree} {parent : String} {parts : List Outline} {visits : List Visit}
  (walk : Walk s tree parent tree.rootKeys [] parts visits)
  (named : ∀ entry ∈ tree.nodes, entry.2.id = entry.1)
  (opened : ∀ entry ∈ placed visits, openChildren s entry.2 = entry.2.children)
include walk named

theorem placed_of_met (visit : Visit) (member : visit ∈ visits) (node : Node)
    (found : tree.find? visit.key = some node) : visit.key ∈ placedKeys visits := by
  cases visit with
  | first key own =>
      have entry : (key, own) ∈ placed visits := List.mem_filterMap.mpr ⟨_, member, rfl⟩
      exact List.mem_map_of_mem (f := Prod.fst) entry
  | again key own => exact walk.placed_of_again named key own member
  | missing parent key =>
      have absent : tree.find? key = none := walk.visits_agree _ member
      rw [Visit.key, absent] at found
      cases found

include opened

theorem mem_placedKeys_iff_reachable (distinct : tree.keys.Nodup) (key : String) :
    key ∈ placedKeys visits ↔ key ∈ tree.reachable.keys := by
  rw [tree.mem_keys_reachable, ← walk.mem_met_iff (walk.placed_of_met named) opened]
  constructor
  · intro member
    obtain ⟨entry, inside, rfl⟩ := List.mem_map.mp member
    obtain ⟨visit, met, same⟩ := List.mem_filterMap.mp inside
    refine ⟨walk.placedKeys_subset member, List.mem_map.mpr ⟨visit, met, ?_⟩⟩
    cases visit <;> cases same
    rfl
  · rintro ⟨present, met⟩
    obtain ⟨node, found⟩ := (tree.mem_keys_iff distinct key).mp present
    obtain ⟨visit, member, rfl⟩ := List.mem_map.mp met
    exact walk.placed_of_met named visit member node found

theorem placed_perm_reachable (distinct : tree.keys.Nodup) :
    (placed visits).Perm tree.reachable.nodes := by
  have nodup : tree.reachable.nodes.Nodup := (tree.nodup_keys_reachable distinct).of_map Prod.fst
  refine (List.perm_ext_iff_of_nodup walk.nodup_placed nodup).mpr fun entry => ?_
  have reach := walk.mem_placedKeys_iff_reachable named opened distinct entry.1
  rw [tree.mem_keys_reachable] at reach
  rw [tree.mem_nodes_reachable]
  constructor
  · exact fun member => ⟨walk.placed_subset member, (reach.mp (List.mem_map_of_mem member)).2⟩
  · rintro ⟨inside, reached⟩
    obtain ⟨other, there, same⟩ := List.mem_map.mp (reach.mpr ⟨List.mem_map_of_mem inside, reached⟩)
    have found := walk.find?_of_placed other there
    rw [same, tree.find?_of_mem distinct entry.1 entry.2 inside] at found
    obtain rfl : other = entry := Prod.ext same (Option.some.inj found).symm
    exact there

/-- A widget is met once if it is a root, and once for each time that it is listed within reach. -/
theorem count_key (distinct : tree.keys.Nodup) (key : String) :
    (visits.map Visit.key).count key =
      tree.rootKeys.count key + tree.reachable.listedChildren.count key := by
  have children : (placed visits).flatMap (fun entry => openChildren s entry.2) =
      (placed visits).flatMap (fun entry => entry.2.children) := List.flatMap_congr opened
  have listed := (walk.placed_perm_reachable named opened distinct).flatMap_right
    fun entry => entry.2.children
  rw [walk.keys_perm.count_eq, List.count_append, children, listed.count_eq]
  rfl

theorem count_placedKeys (distinct : tree.keys.Nodup) (key : String)
    (member : key ∈ tree.reachable.keys) : (placedKeys visits).count key = 1 :=
  List.count_eq_one_of_mem walk.nodup_placedKeys
    ((walk.mem_placedKeys_iff_reachable named opened distinct key).mpr member)

theorem count_repeatedKeys (distinct : tree.keys.Nodup) (key : String)
    (member : key ∈ tree.reachable.keys) :
    1 + (repeatedKeys visits).count key =
      tree.rootKeys.count key + tree.reachable.listedChildren.count key := by
  have present : ∀ visit ∈ visits, ∀ above, visit ≠ .missing above key := by
    rintro _ met above rfl
    have absent : tree.find? key = none := walk.visits_agree _ met
    obtain ⟨node, found⟩ :=
      (tree.mem_keys_iff distinct key).mp ((tree.mem_keys_reachable key).mp member).1
    rw [absent] at found
    cases found
  rw [← walk.count_key named opened distinct key, count_met visits key present,
    walk.count_placedKeys named opened distinct key member]

theorem repeatedKeys_subset (distinct : tree.keys.Nodup) (key : String)
    (member : key ∈ repeatedKeys visits) : key ∈ tree.reachable.keys ∧ key ∉ tree.rootKeys := by
  obtain ⟨visit, met, same⟩ := List.mem_filterMap.mp member
  cases visit with
  | again other node =>
      cases same
      have placedBefore := walk.placed_of_again named key node met
      have within := (walk.mem_placedKeys_iff_reachable named opened distinct key).mp placedBefore
      refine ⟨within, fun root => ?_⟩
      -- A root is met once, and has its place by then.
      have counted := walk.count_repeatedKeys named opened distinct key within
      rw [List.count_eq_one_of_mem (tree.nodup_rootKeys distinct) root,
        tree.count_listedChildren_of_root distinct key root] at counted
      have repeated := List.one_le_count_iff.mpr member
      omega
  | first other node => cases same
  | missing above other => cases same

/-- What is cut is what is listed within reach beyond the first time. -/
theorem length_repeatedKeys (distinct : tree.keys.Nodup) :
    (repeatedKeys visits).length =
      ∑ key ∈ tree.reachable.keys.toFinset \ tree.rootKeys.toFinset,
        (tree.reachable.listedChildren.count key - 1) := by
  have within : ∀ key ∈ (repeatedKeys visits : Multiset String),
      key ∈ tree.reachable.keys.toFinset \ tree.rootKeys.toFinset := by
    intro key member
    simpa using walk.repeatedKeys_subset named opened distinct key (Multiset.mem_coe.mp member)
  rw [← Multiset.coe_card, ← Multiset.sum_count_eq_card within]
  refine Finset.sum_congr rfl fun key member => ?_
  obtain ⟨reached, other⟩ : key ∈ tree.reachable.keys ∧ key ∉ tree.rootKeys := by simpa using member
  have counted := walk.count_repeatedKeys named opened distinct key reached
  rw [List.count_eq_zero.mpr other] at counted
  rw [Multiset.coe_count]
  omega

end Named

end Walk

/-! ### Compilations -/

theorem countP_isRepeat_compile (s : Surroundings) (tree : Tree) (visits : List Visit)
    (walk : Walk s tree "" tree.rootKeys [] (Outline.ofTree s tree) visits) :
    (compile s tree).findings.countP Finding.isRepeat = (repeatedKeys visits).length := by
  rw [(compile_of_walk s tree visits walk).2.1, List.countP_append, rootFindings_not_repeat,
    countP_isRepeat, Nat.zero_add]

/-- Exactly the surplus references are reported as repeated: for each widget within reach that is not a root,
all references to it from within reach but one, of which there is one at least. None is reported just when the
part within reach is a forest. -/
theorem compile_repeats_eq_surplus (s : Surroundings) (tree : Tree) (standard : s.registry = .standard)
    (distinct : tree.keys.Nodup) (named : ∀ entry ∈ tree.nodes, entry.2.id = entry.1)
    (sound : ∀ entry ∈ tree.nodes, entry.2.children ≠ [] → entry.2.IsSound s) :
    ((compile s tree).findings.countP fun finding => finding.code == "CYCLE_DETECTED") =
        ∑ key ∈ tree.reachable.keys.toFinset \ tree.rootKeys.toFinset,
          (tree.reachable.listedChildren.count key - 1) ∧
      (∀ key ∈ tree.reachable.keys, key ∉ tree.rootKeys →
        1 ≤ tree.reachable.listedChildren.count key) ∧
      ((∀ finding ∈ (compile s tree).findings, finding.code ≠ "CYCLE_DETECTED") ↔
        tree.reachable.HasForestShape) := by
  obtain ⟨visits, walk⟩ := Outline.ofTree_walk s tree distinct ""
  have opened : ∀ entry ∈ placed visits, openChildren s entry.2 = entry.2.children := fun entry member =>
    openChildren_of_isSound s entry.2 standard (sound entry (walk.placed_subset member))
  have surplus : (compile s tree).findings.countP Finding.isRepeat =
      ∑ key ∈ tree.reachable.keys.toFinset \ tree.rootKeys.toFinset,
        (tree.reachable.listedChildren.count key - 1) :=
    (countP_isRepeat_compile s tree visits walk).trans (walk.length_repeatedKeys named opened distinct)
  have silent : (∀ finding ∈ (compile s tree).findings, finding.code ≠ "CYCLE_DETECTED") ↔
      (compile s tree).findings.countP Finding.isRepeat = 0 := by
    simp [List.countP_eq_zero, Finding.isRepeat]
  refine ⟨surplus, tree.one_le_count_listedChildren, ?_⟩
  rw [silent, surplus, tree.reachable_hasForestShape_iff distinct, Finset.sum_eq_zero_iff]
  simp [Nat.sub_eq_zero_iff_le]

-- A child listed twice that lists itself too, and a cycle out of reach, about which nothing is said.
theorem compile_repeats_tangled :
    let tree : Tree :=
      { nodes := [("r", .bare "r" "Container" ["a", "gone", "a"]), ("a", .bare "a" "Container" ["b", "a"]),
          ("b", .bare "b" "Spacer" []), ("u", .bare "u" "Page" ["u"])],
        rootId := none }
    (∀ entry ∈ tree.nodes, entry.2.children ≠ [] → entry.2.IsSound .plain) ∧
      (∑ key ∈ tree.reachable.keys.toFinset \ tree.rootKeys.toFinset,
        (tree.reachable.listedChildren.count key - 1)) = 2 ∧ ¬ tree.reachable.HasForestShape := by
  intro tree
  have visible : ∀ entry ∈ tree.nodes, entry.2.IsVisible := by
    simp [tree, Node.IsVisible, Node.bare]
  have sound : ∀ entry ∈ tree.nodes, entry.2.children ≠ [] → entry.2.IsSound .plain := by
    intro entry member bearing
    refine ⟨visible entry member, ?_⟩
    simp only [tree, List.mem_cons, List.not_mem_nil, or_false] at member
    rcases member with rfl | rfl | rfl | rfl
    · exact ⟨.container, rfl, fun _ => Or.inr rfl, _, rfl⟩
    · exact ⟨.container, rfl, fun _ => Or.inr rfl, _, rfl⟩
    · exact absurd rfl bearing
    · exact ⟨.page, rfl, fun _ => Or.inl rfl, _, rfl⟩
  have reported : ((compile .plain tree).findings.countP fun finding =>
      finding.code == "CYCLE_DETECTED") = 2 := by decide +kernel
  obtain ⟨surplus, _, forest⟩ :=
    compile_repeats_eq_surplus .plain tree rfl (by decide) (by decide) sound
  refine ⟨sound, surplus.symm.trans reported, fun shaped => ?_⟩
  have zero : ((compile .plain tree).findings.countP fun finding =>
      finding.code == "CYCLE_DETECTED") = 0 :=
    List.countP_eq_zero.mpr fun finding member => by simpa using forest.mpr shaped finding member
  rw [reported] at zero
  cases zero

end ReportCompiler
