import ReportCompiler.Proofs.Compile.Walk

/-!
The outline of a template is a walk from the keys of its roots: every widget that is placed takes one id
away from those that have not been reached, so the depth that placing starts with is never used up.
-/

namespace ReportCompiler

/-- How many widgets have an id that has not been reached. -/
def Tree.unreached (tree : Tree) (reached : List String) : Nat :=
  tree.nodes.countP fun entry => !reached.contains entry.2.id

namespace Outline

variable (s : Surroundings) (tree : Tree)

theorem unreached_le (known others : List String) (subset : known ⊆ others) :
    tree.unreached others ≤ tree.unreached known := by
  refine List.countP_mono_left ?_
  intro entry _ fresh
  simp only [Bool.not_eq_true', List.contains_eq_mem, decide_eq_false_iff_not] at fresh ⊢
  exact fun member => fresh (subset member)

theorem unreached_cons_lt (key : String) (node : Node) (reached : List String)
    (found : tree.find? key = some node) (fresh : node.id ∉ reached) :
    tree.unreached (node.id :: reached) < tree.unreached reached := by
  obtain ⟨before, after, split⟩ := List.append_of_mem (tree.mem_of_find? key node found)
  have kept := unreached_le { tree with nodes := before ++ after } reached (node.id :: reached)
    (List.subset_cons_self _ _)
  simp only [Tree.unreached, List.countP_append] at kept
  simp only [Tree.unreached, split, List.countP_append, List.countP_cons]
  simp [fresh] at kept ⊢
  omega

/-- What placing one widget comes to. -/
def IsPlaced (place : Node → List String → Reached Outline) (room : Nat) : Prop :=
  ∀ parent key node reached, tree.find? key = some node → tree.unreached reached ≤ room →
    ∃ visits, Walk s tree parent [key] reached [(place node reached).1] visits ∧
      (place node reached).2 = reachedAfter (placed visits) reached

theorem walk_cons (parent key : String) (rest reached : List String) (part : Outline)
    (parts : List Outline) (visits others : List Visit)
    (one : Walk s tree parent [key] reached [part] visits)
    (later : Walk s tree parent rest (reachedAfter (placed visits) reached) parts others) :
    Walk s tree parent (key :: rest) reached (part :: parts) (visits ++ others) := by
  cases one with
  | missing _ _ _ _ _ _ absent last =>
      cases last
      exact .missing parent key rest reached parts others absent later
  | again _ _ _ _ node _ _ found known last =>
      cases last
      exact .again parent key rest reached node parts others found known later
  | first _ _ _ _ node inside _ within _ found fresh inner last =>
      cases last
      rw [List.append_nil] at later
      rw [List.append_nil, List.cons_append]
      exact .first parent key rest reached node inside parts within others found fresh inner later

-- The ids not yet reached bound the depth that is needed; placing a widget takes one of them away.
theorem partsOf_walk (place : Node → List String → Reached Outline) (room : Nat)
    (one : IsPlaced s tree place room) (parent : String) (keys reached : List String)
    (enough : tree.unreached reached ≤ room) :
    ∃ visits, Walk s tree parent keys reached (partsOf tree parent place keys reached).1 visits ∧
      (partsOf tree parent place keys reached).2 = reachedAfter (placed visits) reached := by
  induction keys generalizing reached with
  | nil => exact ⟨[], .done parent reached, rfl⟩
  | cons key rest ih =>
      rw [partsOf]
      split
      · next absent =>
          obtain ⟨visits, later, after⟩ := ih reached enough
          exact ⟨_, .missing parent key rest reached _ visits absent later, after⟩
      · next node found =>
          obtain ⟨visits, here, after⟩ := one parent key node reached found enough
          have smaller : tree.unreached (place node reached).2 ≤ room := by
            rw [after]
            refine Nat.le_trans (unreached_le tree reached _ ?_) enough
            exact fun id known => (mem_reachedAfter _ _ _).mpr (Or.inr known)
          obtain ⟨others, later, end_⟩ := ih (place node reached).2 smaller
          refine ⟨visits ++ others, walk_cons s tree parent key rest reached _ _ visits others here
            (after ▸ later), ?_⟩
          rw [placed_append, reachedAfter_append, ← after]
          exact end_

theorem place_known (depth : Nat) (node : Node) (reached : List String)
    (known : node.id ∈ reached) :
    place s tree depth node reached = (.repeated node.id, reached) := by
  cases depth <;> simp [place, known]

theorem place_fresh (depth : Nat) (node : Node) (reached : List String)
    (fresh : node.id ∉ reached) :
    place s tree (depth + 1) node reached =
      (.widget (Own.ofNode s node)
        (partsOf tree node.id (place s tree depth) (openChildren s node) (node.id :: reached)).1,
      (partsOf tree node.id (place s tree depth) (openChildren s node) (node.id :: reached)).2) := by
  rw [place, openChildren]
  by_cases opened : (Own.ofNode s node).isOpen = true
  · simp [fresh, opened]
  · simp [fresh, opened, partsOf]

theorem place_isPlaced (depth : Nat) : IsPlaced s tree (place s tree depth) depth := by
  induction depth with
  | zero =>
      intro parent key node reached found enough
      -- With no depth left there is no id left either, so the widget has been reached.
      have known : node.id ∈ reached := by
        refine Decidable.by_contra fun fresh => ?_
        have less := unreached_cons_lt tree key node reached found fresh
        omega
      rw [place_known s tree 0 node reached known]
      exact ⟨_, .again parent key [] reached node [] [] found known (.done parent reached), rfl⟩
  | succ depth ih =>
      intro parent key node reached found enough
      by_cases known : node.id ∈ reached
      · rw [place_known s tree _ node reached known]
        exact ⟨_, .again parent key [] reached node [] [] found known (.done parent reached), rfl⟩
      · have less := unreached_cons_lt tree key node reached found known
        obtain ⟨within, inner, after⟩ := partsOf_walk s tree (place s tree depth) depth ih node.id
          (openChildren s node) (node.id :: reached) (by omega)
        rw [place_fresh s tree depth node reached known]
        refine ⟨_, .first parent key [] reached node _ [] within [] found known inner
          (.done parent _), ?_⟩
        rw [after]
        simp [reachedAfter, idsOf]

theorem placeAll_walk (parent : String) (entries : List (String × Node)) (reached : List String)
    (present : ∀ entry ∈ entries, tree.find? entry.1 = some entry.2) :
    ∃ visits, Walk s tree parent (entries.map Prod.fst) reached
      (placeAll s tree (entries.map Prod.snd) reached).1 visits := by
  induction entries generalizing reached with
  | nil => exact ⟨[], .done parent reached⟩
  | cons entry rest ih =>
      obtain ⟨found, others⟩ := List.forall_mem_cons.mp present
      obtain ⟨visits, here, after⟩ := place_isPlaced s tree tree.size parent entry.1 entry.2 reached
        found List.countP_le_length
      obtain ⟨later, walk⟩ := ih (place s tree tree.size entry.2 reached).2 others
      exact ⟨visits ++ later,
        walk_cons s tree parent entry.1 _ reached _ _ visits later here (after ▸ walk)⟩

theorem ofTree_walk (distinct : tree.keys.Nodup) (parent : String) :
    ∃ visits, Walk s tree parent tree.rootKeys [] (ofTree s tree) visits := by
  refine placeAll_walk s tree parent _ [] ?_
  intro entry member
  exact tree.find?_of_mem distinct entry.1 entry.2 (List.mem_filter.mp member).1

end Outline

theorem compile_of_roots (s : Surroundings) (tree : Tree) (filled : tree.nodes ≠ [])
    (rooted : tree.rootKeys ≠ []) : compile s tree = .ofOutlines (Outline.ofTree s tree) := by
  have roots : tree.roots ≠ [] := by
    intro none_
    apply rooted
    rw [Tree.rootKeys, List.map_eq_nil_iff]
    exact List.map_eq_nil_iff.mp none_
  simp [compile, filled, roots]

end ReportCompiler
