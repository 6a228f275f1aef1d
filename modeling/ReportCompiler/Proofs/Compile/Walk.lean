import ReportCompiler.Compile.Basic
import ReportCompiler.Proofs.Template.Keys

/-!
The walk through a template: which widget is met when, and what becomes of it. The outline of a document
is one walk from the keys of the roots. What the document gathers on the way is gathered visit by visit.
-/

namespace ReportCompiler

/-! ### Visits -/

/-- What becomes of one reference to a widget. -/
inductive Visit where
  /-- The widget is placed in the document. -/
  | first (key : String) (node : Node)
  /-- A widget with this id is in the document already. -/
  | again (key : String) (node : Node)
  | missing (parent key : String)

namespace Visit

/-- The key that is looked up. -/
def key : Visit → String
  | first key _ => key
  | again key _ => key
  | missing _ key => key

def entry? : Visit → Option (String × Node)
  | first key node => some (key, node)
  | _ => none

def components (s : Surroundings) : Visit → List Component
  | first _ node => (Own.ofNode s node).components
  | _ => []

def findings (s : Surroundings) : Visit → List Finding
  | first _ node => (Own.ofNode s node).findings
  | again _ node => [.repeatedWidget node.id]
  | missing parent key => [.missingChild parent key]

def isShown (s : Surroundings) : Visit → Bool
  | first _ node => (Own.ofNode s node).isShown
  | _ => false

def IsFirst (visit : Visit) : Prop := ∃ key node, visit = first key node

end Visit

/-- The entries that are placed, in the order of the document. -/
def placed (visits : List Visit) : List (String × Node) := visits.filterMap Visit.entry?

def placedKeys (visits : List Visit) : List String := (placed visits).map Prod.fst

def idsOf (entries : List (String × Node)) : List String := entries.map fun entry => entry.2.id

/-- The ids that have been reached once these entries are placed, the last one first. -/
def reachedAfter (entries : List (String × Node)) (reached : List String) : List String :=
  (idsOf entries).reverse ++ reached

/-- The children that are looked at. -/
def openChildren (s : Surroundings) (node : Node) : List String :=
  if (Own.ofNode s node).isOpen then node.children else []

@[simp] theorem placed_nil : placed [] = [] := rfl

@[simp] theorem placed_first (key : String) (node : Node) (visits : List Visit) :
    placed (.first key node :: visits) = (key, node) :: placed visits := rfl

@[simp] theorem placed_again (key : String) (node : Node) (visits : List Visit) :
    placed (.again key node :: visits) = placed visits := rfl

@[simp] theorem placed_missing (parent key : String) (visits : List Visit) :
    placed (.missing parent key :: visits) = placed visits := rfl

@[simp] theorem placed_append (first second : List Visit) :
    placed (first ++ second) = placed first ++ placed second :=
  List.filterMap_append

theorem reachedAfter_append (first second : List (String × Node)) (reached : List String) :
    reachedAfter (first ++ second) reached = reachedAfter second (reachedAfter first reached) := by
  simp [reachedAfter, idsOf]

theorem mem_reachedAfter (entries : List (String × Node)) (reached : List String) (id : String) :
    id ∈ reachedAfter entries reached ↔ (∃ entry ∈ entries, entry.2.id = id) ∨ id ∈ reached := by
  simp [reachedAfter, idsOf]

/-! ### The walk -/

/-- Keys looked up one after the other under a widget, with some ids reached before: the outlines that
are made, and the visits. -/
inductive Walk (s : Surroundings) (tree : Tree) :
    String → List String → List String → List Outline → List Visit → Prop where
  | done (parent : String) (reached : List String) : Walk s tree parent [] reached [] []
  | missing (parent key : String) (rest reached : List String) (parts : List Outline)
      (visits : List Visit) (absent : tree.find? key = none)
      (later : Walk s tree parent rest reached parts visits) :
      Walk s tree parent (key :: rest) reached (.missing parent key :: parts)
        (.missing parent key :: visits)
  | again (parent key : String) (rest reached : List String) (node : Node) (parts : List Outline)
      (visits : List Visit) (found : tree.find? key = some node) (known : node.id ∈ reached)
      (later : Walk s tree parent rest reached parts visits) :
      Walk s tree parent (key :: rest) reached (.repeated node.id :: parts)
        (.again key node :: visits)
  | first (parent key : String) (rest reached : List String) (node : Node)
      (inside parts : List Outline) (within visits : List Visit)
      (found : tree.find? key = some node) (fresh : node.id ∉ reached)
      (inner : Walk s tree node.id (openChildren s node) (node.id :: reached) inside within)
      (later : Walk s tree parent rest (reachedAfter ((key, node) :: placed within) reached) parts
        visits) :
      Walk s tree parent (key :: rest) reached (.widget (Own.ofNode s node) inside :: parts)
        (.first key node :: (within ++ visits))

namespace Walk

variable {s : Surroundings} {tree : Tree}

/-! ### What the document gathers -/

theorem componentsAll_eq {parent : String} {keys reached : List String} {parts : List Outline}
    {visits : List Visit} (walk : Walk s tree parent keys reached parts visits) :
    Outline.componentsAll parts = visits.flatMap (Visit.components s) := by
  induction walk with
  | done => rfl
  | missing parent key rest reached parts visits absent later ih =>
      simpa [Outline.componentsAll, Outline.components, Visit.components] using ih
  | again parent key rest reached node parts visits found known later ih =>
      simpa [Outline.componentsAll, Outline.components, Visit.components] using ih
  | first parent key rest reached node inside parts within visits found fresh inner later ihIn ih =>
      simp [Outline.componentsAll, Outline.components, Visit.components, ihIn, ih]

theorem findingsAll_eq {parent : String} {keys reached : List String} {parts : List Outline}
    {visits : List Visit} (walk : Walk s tree parent keys reached parts visits) :
    Outline.findingsAll parts = visits.flatMap (Visit.findings s) := by
  induction walk with
  | done => rfl
  | missing parent key rest reached parts visits absent later ih =>
      simpa [Outline.findingsAll, Outline.findings, Visit.findings] using ih
  | again parent key rest reached node parts visits found known later ih =>
      simpa [Outline.findingsAll, Outline.findings, Visit.findings] using ih
  | first parent key rest reached node inside parts within visits found fresh inner later ihIn ih =>
      simp [Outline.findingsAll, Outline.findings, Visit.findings, ihIn, ih]

theorem countAll_eq {parent : String} {keys reached : List String} {parts : List Outline}
    {visits : List Visit} (walk : Walk s tree parent keys reached parts visits) :
    Outline.countAll parts = visits.countP (Visit.isShown s) := by
  induction walk with
  | done => rfl
  | missing parent key rest reached parts visits absent later ih =>
      simpa [Outline.countAll, Outline.count, Visit.isShown] using ih
  | again parent key rest reached node parts visits found known later ih =>
      simpa [Outline.countAll, Outline.count, Visit.isShown] using ih
  | first parent key rest reached node inside parts within visits found fresh inner later ihIn ih =>
      rw [Outline.countAll, Outline.count, ihIn, ih, List.countP_cons, List.countP_append]
      cases shown : (Own.ofNode s node).isShown <;> simp [Visit.isShown, shown]
      omega

/-! ### Who is placed, and where -/

theorem find?_of_placed {parent : String} {keys reached : List String} {parts : List Outline}
    {visits : List Visit} (walk : Walk s tree parent keys reached parts visits) :
    ∀ entry ∈ placed visits, tree.find? entry.1 = some entry.2 := by
  induction walk with
  | done => simp
  | missing parent key rest reached parts visits absent later ih => simpa using ih
  | again parent key rest reached node parts visits found known later ih => simpa using ih
  | first parent key rest reached node inside parts within visits found fresh inner later ihIn ih =>
      intro entry member
      rw [placed_first, placed_append, List.mem_cons, List.mem_append] at member
      rcases member with rfl | inner | after
      · exact found
      · exact ihIn entry inner
      · exact ih entry after

-- No id is placed twice, nor one that was reached before the walk.
theorem idsOf_placed_fresh {parent : String} {keys reached : List String} {parts : List Outline}
    {visits : List Visit} (walk : Walk s tree parent keys reached parts visits) :
    (idsOf (placed visits)).Nodup ∧ ∀ id ∈ idsOf (placed visits), id ∉ reached := by
  induction walk with
  | done => simp [idsOf]
  | missing parent key rest reached parts visits absent later ih => simpa using ih
  | again parent key rest reached node parts visits found known later ih => simpa using ih
  | first parent key rest reached node inside parts within visits found fresh inner later ihIn ih =>
      have split : idsOf (placed (.first key node :: (within ++ visits))) =
          node.id :: (idsOf (placed within) ++ idsOf (placed visits)) := by
        simp [idsOf]
      have apart : ∀ id ∈ idsOf (placed visits),
          id ≠ node.id ∧ id ∉ idsOf (placed within) ∧ id ∉ reached := by
        -- What comes later starts with all that was placed inside the widget as reached.
        intro id member
        have unreached := ih.2 id member
        rw [reachedAfter, List.mem_append, List.mem_reverse, not_or] at unreached
        refine ⟨?_, fun inside => ?_, unreached.2⟩
        · rintro rfl
          exact unreached.1 List.mem_cons_self
        · exact unreached.1 (List.mem_cons_of_mem _ inside)
      rw [split]
      constructor
      · refine List.nodup_cons.mpr ⟨?_, List.nodup_append.mpr ⟨ihIn.1, ih.1, ?_⟩⟩
        · intro member
          rcases List.mem_append.mp member with inside | after
          · exact ihIn.2 _ inside List.mem_cons_self
          · exact (apart _ after).1 rfl
        · rintro id inside other after rfl
          exact (apart id after).2.1 inside
      · intro id member
        rcases List.mem_cons.mp member with rfl | deeper
        · exact fresh
        · rcases List.mem_append.mp deeper with inside | after
          · exact fun known => ihIn.2 id inside (List.mem_cons_of_mem _ known)
          · exact (apart id after).2.2

-- Every reference is a visit: those the walk starts with, and those of the widgets it places.
theorem keys_perm {parent : String} {keys reached : List String} {parts : List Outline}
    {visits : List Visit} (walk : Walk s tree parent keys reached parts visits) :
    (visits.map Visit.key).Perm
      (keys ++ (placed visits).flatMap fun entry => openChildren s entry.2) := by
  induction walk with
  | done => simp
  | missing parent key rest reached parts visits absent later ih =>
      simpa [Visit.key] using ih
  | again parent key rest reached node parts visits found known later ih =>
      simpa [Visit.key] using ih
  | first parent key rest reached node inside parts within visits found fresh inner later ihIn ih =>
      simp only [List.map_cons, List.map_append, Visit.key, placed_first, placed_append,
        List.flatMap_cons, List.flatMap_append, List.cons_append]
      -- The widget's own children come in front of what is placed inside it.
      refine List.Perm.cons key ((ihIn.append ih).trans ?_)
      rw [List.append_assoc]
      exact ((List.perm_append_comm_assoc _ _ _).append_left _).trans
        (List.perm_append_comm_assoc _ _ _)

/-- What a visit says about the template, where these ids have been reached. -/
def Agrees (tree : Tree) (known : List String) : Visit → Prop
  | .first key node => tree.find? key = some node
  | .again key node => tree.find? key = some node ∧ node.id ∈ known
  | .missing _ key => tree.find? key = none

theorem Agrees.mono (known others : List String) (subset : known ⊆ others) (visit : Visit)
    (agrees : Agrees tree known visit) : Agrees tree others visit := by
  cases visit with
  | first key node => exact agrees
  | again key node => exact ⟨agrees.1, subset agrees.2⟩
  | missing parent key => exact agrees

theorem visits_agree {parent : String} {keys reached : List String} {parts : List Outline}
    {visits : List Visit} (walk : Walk s tree parent keys reached parts visits) :
    ∀ visit ∈ visits, Agrees tree (reachedAfter (placed visits) reached) visit := by
  induction walk with
  | done => simp
  | missing parent key rest reached parts visits absent later ih =>
      exact List.forall_mem_cons.mpr ⟨absent, ih⟩
  | again parent key rest reached node parts visits found known later ih =>
      refine List.forall_mem_cons.mpr ⟨⟨found, ?_⟩, ih⟩
      exact (mem_reachedAfter _ _ _).mpr (Or.inr known)
  | first parent key rest reached node inside parts within visits found fresh inner later ihIn ih =>
      have whole : reachedAfter (placed (.first key node :: (within ++ visits))) reached =
          reachedAfter (placed visits)
            (reachedAfter (placed within) (node.id :: reached)) := by
        simp [reachedAfter, idsOf]
      rw [whole]
      refine List.forall_mem_cons.mpr ⟨found, List.forall_mem_append.mpr ⟨?_, ?_⟩⟩
      · intro visit member
        refine (ihIn visit member).mono _ _ ?_
        exact fun id known => (mem_reachedAfter _ _ _).mpr (Or.inr known)
      · simpa [reachedAfter, idsOf] using ih

-- Who is placed hangs together: what is placed is within reach of the keys the walk starts with.
theorem reachedFrom_of_placed {parent : String} {keys reached : List String} {parts : List Outline}
    {visits : List Visit} (walk : Walk s tree parent keys reached parts visits) :
    ∀ entry ∈ placed visits, tree.ReachedFrom keys entry.1 := by
  induction walk with
  | done => simp
  | missing parent key rest reached parts visits absent later ih =>
      exact fun entry member => (ih entry member).mono tree _ _ (List.subset_cons_self _ _)
  | again parent key rest reached node parts visits found known later ih =>
      exact fun entry member => (ih entry member).mono tree _ _ (List.subset_cons_self _ _)
  | first parent key rest reached node inside parts within visits found fresh inner later ihIn ih =>
      intro entry member
      rw [placed_first, placed_append, List.mem_cons, List.mem_append] at member
      rcases member with rfl | inner | after
      · exact .start key List.mem_cons_self
      -- Inside the widget the walk starts with its children, one step below its key.
      · refine (ihIn entry inner).trans tree _ _ ?_
        intro child listed
        refine .child key child node (.start key List.mem_cons_self) found ?_
        unfold openChildren at listed
        exact (List.mem_ite_nil_right.mp listed).2
      · exact (ih entry after).mono tree _ _ (List.subset_cons_self _ _)

/-! ### Keys that are placed -/

variable {parent : String} {keys reached : List String} {parts : List Outline}
  {visits : List Visit}

-- A key leads to one entry only, so different ids stand under different keys.
theorem nodup_placedKeys (walk : Walk s tree parent keys reached parts visits) :
    (placedKeys visits).Nodup := by
  have ids := List.pairwise_map.mp walk.idsOf_placed_fresh.1
  refine List.pairwise_map.mpr (ids.imp_of_mem ?_)
  intro first second here there different same
  have found := walk.find?_of_placed first here
  rw [same, walk.find?_of_placed second there] at found
  exact different (congrArg Node.id (Option.some.inj found)).symm

theorem placedKeys_subset (walk : Walk s tree parent keys reached parts visits) :
    placedKeys visits ⊆ tree.keys := by
  intro key member
  obtain ⟨entry, inside, rfl⟩ := List.mem_map.mp member
  exact List.mem_map_of_mem (tree.mem_of_find? entry.1 entry.2 (walk.find?_of_placed entry inside))

theorem countP_isShown (shown : ∀ entry ∈ placed visits,
      (Own.ofNode s entry.2).isShown = true) :
    visits.countP (Visit.isShown s) = (placedKeys visits).length := by
  induction visits with
  | nil => rfl
  | cons visit rest ih =>
      cases visit with
      | first key node =>
          obtain ⟨here, later⟩ := List.forall_mem_cons.mp shown
          have seen : Visit.isShown s (.first key node) = true := here
          rw [List.countP_cons_of_pos seen, ih later]
          rfl
      | again key node => simpa [placedKeys, Visit.isShown] using ih shown
      | missing parent key => simpa [placedKeys, Visit.isShown] using ih shown

theorem flatMap_components (visits : List Visit) :
    visits.flatMap (Visit.components s) =
      (placed visits).flatMap fun entry => (Own.ofNode s entry.2).components := by
  induction visits with
  | nil => rfl
  | cons visit rest ih => cases visit <;> simpa [Visit.components] using ih

theorem flatMap_findings_of_firsts (firsts : ∀ visit ∈ visits, visit.IsFirst) :
    visits.flatMap (Visit.findings s) =
      (placed visits).flatMap fun entry => (Own.ofNode s entry.2).findings := by
  induction visits with
  | nil => rfl
  | cons visit rest ih =>
      obtain ⟨⟨key, node, rfl⟩, later⟩ := List.forall_mem_cons.mp firsts
      simpa [Visit.findings] using ih later

theorem map_key_of_firsts (firsts : ∀ visit ∈ visits, visit.IsFirst) :
    visits.map Visit.key = placedKeys visits := by
  induction visits with
  | nil => rfl
  | cons visit rest ih =>
      obtain ⟨⟨key, node, rfl⟩, later⟩ := List.forall_mem_cons.mp firsts
      simpa [placedKeys, Visit.key] using ih later

-- Where all children are looked at and whatever is met has its place, the walk goes as far as children lead.
theorem mem_met_iff (walk : Walk s tree parent keys reached parts visits)
    (settled : ∀ visit ∈ visits, ∀ node, tree.find? visit.key = some node →
      visit.key ∈ placedKeys visits)
    (opened : ∀ entry ∈ placed visits, openChildren s entry.2 = entry.2.children) (key : String) :
    key ∈ visits.map Visit.key ↔ tree.ReachedFrom keys key := by
  have met : ∀ key, key ∈ visits.map Visit.key ↔
      key ∈ keys ∨ ∃ entry ∈ placed visits, key ∈ openChildren s entry.2 := by
    intro key
    rw [walk.keys_perm.mem_iff, List.mem_append, List.mem_flatMap]
  constructor
  · intro member
    rcases (met key).mp member with first | ⟨entry, inside, listed⟩
    · exact .start key first
    · rw [opened entry inside] at listed
      exact .child entry.1 key entry.2 (walk.reachedFrom_of_placed entry inside)
        (walk.find?_of_placed entry inside) listed
  · intro within
    induction within with
    | start key member => exact (met key).mpr (Or.inl member)
    | child key listed node above found member ih =>
        obtain ⟨visit, inside, rfl⟩ := List.mem_map.mp ih
        obtain ⟨entry, there, same⟩ := List.mem_map.mp (settled visit inside node found)
        rw [← same, walk.find?_of_placed entry there] at found
        obtain rfl := Option.some.inj found
        exact (met listed).mpr (Or.inr ⟨entry, there, (opened entry there).symm ▸ member⟩)

theorem mem_placedKeys_iff (walk : Walk s tree parent keys reached parts visits)
    (firsts : ∀ visit ∈ visits, visit.IsFirst)
    (opened : ∀ entry ∈ placed visits, openChildren s entry.2 = entry.2.children) (key : String) :
    key ∈ placedKeys visits ↔ tree.ReachedFrom keys key := by
  have same := map_key_of_firsts firsts
  have met := walk.mem_met_iff (fun visit member _ _ => same ▸ List.mem_map_of_mem member) opened key
  rwa [same] at met

end Walk

end ReportCompiler
