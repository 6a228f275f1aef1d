import Mathlib.Data.List.Basic
import ReportCompiler.Proofs.Compile.Place

/-!
Two compilations side by side. Widgets may have other settings, or be rendered in other surroundings; as
long as they open their children alike, both walks meet the same widgets in the same order.
-/

namespace ReportCompiler

/-! ### Other settings -/

def Node.mapProps (f : Fields → Fields) (node : Node) : Node := { node with props := f node.props }

namespace Tree

/-- The template with the settings of every widget changed. -/
def mapProps (f : Fields → Fields) (tree : Tree) : Tree :=
  { tree with nodes := tree.nodes.map fun entry => (entry.1, entry.2.mapProps f) }

variable (f : Fields → Fields) (tree : Tree)

theorem mapProps_id : tree.mapProps id = tree := by
  simp [mapProps, Node.mapProps]

theorem find?_mapProps (key : String) :
    (tree.mapProps f).find? key = (tree.find? key).map (Node.mapProps f) :=
  tree.find?_mapNodes (fun _ => Node.mapProps f) key

theorem listedChildren_mapProps : (tree.mapProps f).listedChildren = tree.listedChildren := by
  simp [listedChildren, mapProps, List.flatMap_map, Node.mapProps]

theorem keys_mapProps : (tree.mapProps f).keys = tree.keys := by
  simp [keys, mapProps]

theorem rootKeys_mapProps : (tree.mapProps f).rootKeys = tree.rootKeys := by
  rw [rootKeys, rootKeys, listedChildren_mapProps, mapProps, List.filter_map, List.map_map]
  rfl

end Tree

namespace Visit

/-- The same visit, to a widget with other settings. -/
def mapProps (f : Fields → Fields) : Visit → Visit
  | first key node => first key (node.mapProps f)
  | again key node => again key (node.mapProps f)
  | missing parent key => missing parent key

theorem mapProps_id (visit : Visit) : visit.mapProps id = visit := by
  cases visit <;> rfl

end Visit

/-- Entries with the settings of every widget changed. -/
def mapEntries (f : Fields → Fields) (entries : List (String × Node)) : List (String × Node) :=
  entries.map fun entry => (entry.1, entry.2.mapProps f)

theorem mapEntries_id (entries : List (String × Node)) : mapEntries id entries = entries := by
  simp [mapEntries, Node.mapProps]

theorem placed_map_mapProps (f : Fields → Fields) (visits : List Visit) :
    placed (visits.map (Visit.mapProps f)) = mapEntries f (placed visits) := by
  induction visits with
  | nil => rfl
  | cons visit rest ih => cases visit <;> simpa [Visit.mapProps, mapEntries] using ih

theorem reachedAfter_mapEntries (f : Fields → Fields) (entries : List (String × Node))
    (reached : List String) : reachedAfter (mapEntries f entries) reached = reachedAfter entries reached := by
  simp [reachedAfter, idsOf, mapEntries, Node.mapProps]

/-! ### Walks -/

-- The induction is on one walk; the other one can only take the same step at every key.
theorem Walk.alongside {s others : Surroundings} {tree : Tree} {parent : String}
    {keys reached : List String} {parts otherParts : List Outline} {visits otherVisits : List Visit}
    (f : Fields → Fields) (walk : Walk s tree parent keys reached parts visits)
    (other : Walk others (tree.mapProps f) parent keys reached otherParts otherVisits)
    (alike : ∀ entry ∈ placed visits, (entry.1, entry.2.mapProps f) ∈ placed otherVisits →
      openChildren others (entry.2.mapProps f) = openChildren s entry.2) :
    otherVisits = visits.map (Visit.mapProps f) ∧
      ((∀ entry ∈ placed visits, Own.ofNode others (entry.2.mapProps f) = Own.ofNode s entry.2) →
        otherParts = parts) := by
  induction walk generalizing otherParts otherVisits with
  | done parent reached =>
      cases other
      exact ⟨rfl, fun _ => rfl⟩
  | missing parent key rest reached parts visits absent later ih =>
      have gone : (tree.mapProps f).find? key = none := by rw [Tree.find?_mapProps, absent]; rfl
      cases other with
      | missing _ _ _ _ otherParts otherVisits _ otherLater =>
          obtain ⟨same, built⟩ := ih otherLater alike
          exact ⟨by rw [same]; rfl, fun own => by rw [built own]⟩
      | again _ _ _ _ _ _ _ found => simp [gone] at found
      | first _ _ _ _ _ _ _ _ _ found => simp [gone] at found
  | again parent key rest reached node parts visits found known later ih =>
      have there : (tree.mapProps f).find? key = some (node.mapProps f) := by
        rw [Tree.find?_mapProps, found]; rfl
      cases other with
      | missing _ _ _ _ _ _ absent => simp [there] at absent
      | again _ _ _ _ _ otherParts otherVisits otherFound _ otherLater =>
          obtain rfl := Option.some.inj (there.symm.trans otherFound)
          obtain ⟨same, built⟩ := ih otherLater alike
          exact ⟨by rw [same]; rfl, fun own => by rw [built own]; rfl⟩
      | first _ _ _ _ _ _ _ _ _ otherFound fresh =>
          obtain rfl := Option.some.inj (there.symm.trans otherFound)
          exact absurd known fresh
  | first parent key rest reached node inside parts within visits found fresh inner later ihIn ih =>
      have there : (tree.mapProps f).find? key = some (node.mapProps f) := by
        rw [Tree.find?_mapProps, found]; rfl
      cases other with
      | missing _ _ _ _ _ _ absent => simp [there] at absent
      | again _ _ _ _ _ _ _ otherFound known =>
          obtain rfl := Option.some.inj (there.symm.trans otherFound)
          exact absurd known fresh
      | first _ _ _ _ _ otherInside otherParts otherWithin otherVisits otherFound _ otherInner
          otherLater =>
          obtain rfl := Option.some.inj (there.symm.trans otherFound)
          have inBoth : ∀ entry, entry ∈ placed (.first key (node.mapProps f) ::
              (otherWithin ++ otherVisits)) ↔ entry = (key, node.mapProps f) ∨
                entry ∈ placed otherWithin ∨ entry ∈ placed otherVisits := by
            simp
          rw [placed_first, placed_append] at alike
          obtain ⟨here, deeper⟩ := List.forall_mem_cons.mp alike
          obtain ⟨inHere, after⟩ := List.forall_mem_append.mp deeper
          rw [here ((inBoth _).mpr (Or.inl rfl))] at otherInner
          obtain ⟨sameIn, builtIn⟩ := ihIn otherInner fun entry member there =>
            inHere entry member ((inBoth _).mpr (Or.inr (Or.inl there)))
          -- Both walks go on with the same ids reached.
          rw [sameIn, placed_map_mapProps] at otherLater
          have reachedSame : reachedAfter ((key, node.mapProps f) :: mapEntries f (placed within))
              reached = reachedAfter ((key, node) :: placed within) reached :=
            reachedAfter_mapEntries f ((key, node) :: placed within) reached
          rw [reachedSame] at otherLater
          obtain ⟨same, built⟩ := ih otherLater fun entry member there =>
            after entry member ((inBoth _).mpr (Or.inr (Or.inr there)))
          refine ⟨by rw [sameIn, same, List.map_cons, List.map_append]; rfl, fun own => ?_⟩
          rw [placed_first, placed_append] at own
          obtain ⟨ownHere, ownDeeper⟩ := List.forall_mem_cons.mp own
          obtain ⟨ownIn, ownAfter⟩ := List.forall_mem_append.mp ownDeeper
          rw [ownHere, builtIn ownIn, built ownAfter]

/-! ### Compilations -/

/-- The entries that are placed in the document of a template, in its order. -/
def Tree.Places (s : Surroundings) (tree : Tree) (entries : List (String × Node)) : Prop :=
  ∃ visits, Walk s tree "" tree.rootKeys [] (Outline.ofTree s tree) visits ∧
    placed visits = entries

/-- What is found before any widget is looked at. -/
def rootFindings (tree : Tree) : List Finding :=
  if tree.rootKeys = [] then [if tree.nodes.isEmpty then .emptyTree else .noRoots] else []

section Compilations

variable (s : Surroundings) (tree : Tree)

theorem roots_of_rootless (rootless : tree.rootKeys = []) : tree.roots = [] := by
  rw [Tree.rootKeys, List.map_eq_nil_iff] at rootless
  exact List.map_eq_nil_iff.mpr rootless

theorem compile_of_rootless (rootless : tree.rootKeys = []) :
    compile s tree = .nothing (if tree.nodes.isEmpty then .emptyTree else .noRoots) := by
  rw [compile, roots_of_rootless tree rootless]
  split <;> rfl

theorem nodes_ne_nil_of_rooted (rooted : tree.rootKeys ≠ []) : tree.nodes ≠ [] := by
  intro empty
  rw [Tree.rootKeys, empty] at rooted
  exact rooted rfl

theorem compile_html :
    (compile s tree).html = Text.join "\n" (Outline.htmlAll (Outline.ofTree s tree)) := by
  by_cases rooted : tree.rootKeys = []
  · rw [compile_of_rootless s tree rooted, Outline.ofTree, roots_of_rootless tree rooted]
    rfl
  · rw [compile_of_roots s tree (nodes_ne_nil_of_rooted tree rooted) rooted]
    rfl

-- A document is what its visits contribute, in the order of the walk.
theorem compile_of_walk (visits : List Visit)
    (walk : Walk s tree "" tree.rootKeys [] (Outline.ofTree s tree) visits) :
    (compile s tree).components = visits.flatMap (Visit.components s) ∧
      (compile s tree).findings = rootFindings tree ++ visits.flatMap (Visit.findings s) ∧
      (compile s tree).widgetCount = visits.countP (Visit.isShown s) := by
  by_cases rooted : tree.rootKeys = []
  · generalize Outline.ofTree s tree = parts at walk
    have nothing : visits = [] := by
      rw [rooted] at walk
      cases walk
      rfl
    rw [compile_of_rootless s tree rooted, nothing, rootFindings, if_pos rooted]
    exact ⟨rfl, rfl, rfl⟩
  · rw [compile_of_roots s tree (nodes_ne_nil_of_rooted tree rooted) rooted, rootFindings,
      if_neg rooted]
    exact ⟨walk.componentsAll_eq, walk.findingsAll_eq, walk.countAll_eq⟩

end Compilations

namespace Tree.Places

variable {s : Surroundings} {tree : Tree} {entries : List (String × Node)}
  (places : tree.Places s entries)
include places

theorem components_eq : (compile s tree).components =
    entries.flatMap fun entry => (Own.ofNode s entry.2).components := by
  obtain ⟨visits, walk, rfl⟩ := places
  rw [(compile_of_walk s tree visits walk).1, Walk.flatMap_components]

theorem subset : entries ⊆ tree.nodes := by
  obtain ⟨visits, walk, rfl⟩ := places
  exact fun entry member => tree.mem_of_find? entry.1 entry.2 (walk.find?_of_placed entry member)

theorem nodup_ids : (idsOf entries).Nodup := by
  obtain ⟨visits, walk, rfl⟩ := places
  exact walk.idsOf_placed_fresh.1

theorem findings_subset (entry : String × Node) (member : entry ∈ entries) :
    (Own.ofNode s entry.2).findings ⊆ (compile s tree).findings := by
  obtain ⟨visits, walk, rfl⟩ := places
  obtain ⟨visit, inside, same⟩ := List.mem_filterMap.mp member
  rw [(compile_of_walk s tree visits walk).2.1]
  intro finding found
  refine List.mem_append_right _ (List.mem_flatMap.mpr ⟨visit, inside, ?_⟩)
  cases visit with
  | first key node =>
      cases same
      exact found
  | again key node => cases same
  | missing parent key => cases same

-- A walk has no choice, so that it can only be taken in one way.
theorem unique (others : List (String × Node)) (again : tree.Places s others) : others = entries := by
  obtain ⟨visits, walk, rfl⟩ := places
  obtain ⟨otherVisits, other, rfl⟩ := again
  have aside : Walk s (tree.mapProps id) "" tree.rootKeys [] (Outline.ofTree s tree) otherVisits := by
    rw [Tree.mapProps_id]
    exact other
  rw [(walk.alongside id aside fun _ _ _ => rfl).1, placed_map_mapProps, mapEntries_id]

end Tree.Places

/-! ### Two compilations -/

/-- What two contributions have in common where they differ in markup or entries only. -/
structure Own.Agrees (own other : Own) : Prop where
  findings : other.findings = own.findings
  isShown : other.isShown = own.isShown
  isOpen : other.isOpen = own.isOpen

-- Nothing but the presence of markup decides over all the rest.
theorem Own.agrees_rendered (node : Node) (holds : Bool) (result other : Widget.Rendered)
    (earlier : List Finding) (same : (other.html == "") = (result.html == "")) :
    Own.Agrees (Own.rendered node holds result earlier) (Own.rendered node holds other earlier) := by
  unfold Own.rendered
  rw [same]
  split <;> exact ⟨rfl, rfl, rfl⟩

/-- Nothing but what is calm has been found about the widget, in neither place. -/
def Node.IsCalm (f : Fields → Fields) (s others : Surroundings) (calm : Finding → Prop)
    (node : Node) : Prop :=
  (∀ finding ∈ (Own.ofNode s node).findings, calm finding) ∧
    ∀ finding ∈ (Own.ofNode others (node.mapProps f)).findings, calm finding

section SideBySide

variable (f : Fields → Fields) (s others : Surroundings) (tree : Tree) (calm : Finding → Prop)
  (distinct : tree.keys.Nodup) (quiet : ∀ finding ∈ (compile s tree).findings, calm finding)
  (otherQuiet : ∀ finding ∈ (compile others (tree.mapProps f)).findings, calm finding)
include distinct quiet otherQuiet

-- The findings of a widget that both walks place are findings of both documents.
theorem exists_walks_alongside
    (alike : ∀ entry ∈ tree.nodes, entry.2.IsCalm f s others calm →
      openChildren others (entry.2.mapProps f) = openChildren s entry.2) :
    ∃ visits, Walk s tree "" tree.rootKeys [] (Outline.ofTree s tree) visits ∧
      Walk others (tree.mapProps f) "" (tree.mapProps f).rootKeys []
        (Outline.ofTree others (tree.mapProps f)) (visits.map (Visit.mapProps f)) ∧
      (∀ entry ∈ placed visits, entry.2.IsCalm f s others calm) ∧
      ((∀ entry ∈ placed visits,
          Own.ofNode others (entry.2.mapProps f) = Own.ofNode s entry.2) →
        Outline.ofTree others (tree.mapProps f) = Outline.ofTree s tree) := by
  have otherDistinct : (tree.mapProps f).keys.Nodup := by
    rw [Tree.keys_mapProps]
    exact distinct
  obtain ⟨visits, walk⟩ := Outline.ofTree_walk s tree distinct ""
  obtain ⟨otherVisits, other⟩ := Outline.ofTree_walk others (tree.mapProps f) otherDistinct ""
  have here : tree.Places s (placed visits) := ⟨visits, walk, rfl⟩
  have there : (tree.mapProps f).Places others (placed otherVisits) := ⟨otherVisits, other, rfl⟩
  have calmOf : ∀ entry ∈ placed visits, (entry.1, entry.2.mapProps f) ∈ placed otherVisits →
      entry.2.IsCalm f s others calm := fun entry member otherMember =>
    ⟨fun finding found => quiet finding (here.findings_subset entry member found),
      fun finding found => otherQuiet finding (there.findings_subset _ otherMember found)⟩
  have aside := other
  rw [Tree.rootKeys_mapProps] at aside
  obtain ⟨same, built⟩ := walk.alongside f aside fun entry member otherMember =>
    alike entry (here.subset member) (calmOf entry member otherMember)
  refine ⟨visits, walk, same ▸ other, fun entry member => calmOf entry member ?_, built⟩
  rw [same, placed_map_mapProps]
  exact List.mem_map_of_mem member

/-- Where widgets find the same and open alike, both documents have the same widgets in their places. -/
theorem compile_alongside
    (alike : ∀ entry ∈ tree.nodes, entry.2.IsCalm f s others calm →
      Own.Agrees (Own.ofNode s entry.2) (Own.ofNode others (entry.2.mapProps f))) :
    ∃ entries, tree.Places s entries ∧ (tree.mapProps f).Places others (mapEntries f entries) ∧
      (∀ entry ∈ entries, entry.2.IsCalm f s others calm) ∧
      (compile others (tree.mapProps f)).findings = (compile s tree).findings ∧
      (compile others (tree.mapProps f)).widgetCount = (compile s tree).widgetCount := by
  obtain ⟨visits, walk, other, calmHere, _⟩ :=
    exists_walks_alongside f s others tree calm distinct quiet otherQuiet fun entry member calm => by
      have agrees := alike entry member calm
      rw [openChildren, openChildren, agrees.isOpen]
      rfl
  obtain ⟨_, findings, count⟩ := compile_of_walk s tree visits walk
  obtain ⟨_, otherFindings, otherCount⟩ := compile_of_walk others (tree.mapProps f) _ other
  have agrees : ∀ entry ∈ placed visits,
      Own.Agrees (Own.ofNode s entry.2) (Own.ofNode others (entry.2.mapProps f)) :=
    fun entry member => alike entry (Tree.Places.subset ⟨visits, walk, rfl⟩ member)
      (calmHere entry member)
  have each : ∀ visit ∈ visits, (visit.mapProps f).findings others = visit.findings s ∧
      (visit.mapProps f).isShown others = visit.isShown s := by
    intro visit member
    cases visit with
    | first key node =>
        have own := agrees (key, node) (List.mem_filterMap.mpr ⟨_, member, rfl⟩)
        exact ⟨own.findings, own.isShown⟩
    | again key node => exact ⟨rfl, rfl⟩
    | missing parent key => exact ⟨rfl, rfl⟩
  refine ⟨placed visits, ⟨visits, walk, rfl⟩, ⟨_, other, placed_map_mapProps f visits⟩, calmHere,
    ?_, ?_⟩
  · rw [findings, otherFindings, List.flatMap_map, rootFindings, rootFindings,
      Tree.rootKeys_mapProps]
    congr 1
    · simp [Tree.mapProps]
    · exact List.flatMap_congr fun visit member => (each visit member).1
  · rw [count, otherCount, List.countP_map]
    exact List.countP_congr fun visit member => by rw [Function.comp, (each visit member).2]

/-- Where all that the walk places contributes the same, the documents are the same. -/
theorem compile_congr_of_places
    (opens : ∀ entry ∈ tree.nodes, entry.2.IsCalm f s others calm →
      openChildren others (entry.2.mapProps f) = openChildren s entry.2)
    (alike : ∀ entries, tree.Places s entries → ∀ entry ∈ entries,
      entry.2.IsCalm f s others calm → Own.ofNode others (entry.2.mapProps f) = Own.ofNode s entry.2) :
    compile others (tree.mapProps f) = compile s tree := by
  obtain ⟨visits, walk, _, calmHere, built⟩ :=
    exists_walks_alongside f s others tree calm distinct quiet otherQuiet opens
  have outline := built fun entry member =>
    alike _ ⟨visits, walk, rfl⟩ entry member (calmHere entry member)
  have sameRoots := Tree.rootKeys_mapProps f tree
  by_cases rooted : tree.rootKeys = []
  · rw [compile_of_rootless s tree rooted, compile_of_rootless others _ (sameRoots.trans rooted)]
    simp [Tree.mapProps]
  · have otherRooted : (tree.mapProps f).rootKeys ≠ [] := sameRoots ▸ rooted
    rw [compile_of_roots s tree (nodes_ne_nil_of_rooted tree rooted) rooted,
      compile_of_roots others _ (nodes_ne_nil_of_rooted _ otherRooted) otherRooted, outline]

theorem compile_congr
    (alike : ∀ entry ∈ tree.nodes, entry.2.IsCalm f s others calm →
      Own.ofNode others (entry.2.mapProps f) = Own.ofNode s entry.2) :
    compile others (tree.mapProps f) = compile s tree := by
  refine compile_congr_of_places f s others tree calm distinct quiet otherQuiet ?_ ?_
  · intro entry member calm
    rw [openChildren, openChildren, alike entry member calm]
    rfl
  · intro entries places entry member calm
    exact alike entry (places.subset member) calm

end SideBySide

end ReportCompiler
