import Mathlib.Data.List.Nodup
import ReportCompiler.Proofs.Compile.ChartPaths
import ReportCompiler.Proofs.Compile.Preview
import ReportCompiler.Proofs.Export.Validation

/-!
The bindings that an export reports. With a preview it reports what it reports without one, save for charts:
the data is put into their titles before the paths of their markers are read.
-/

namespace ReportCompiler

open ReportCompiler.Widget

/-! ### Lost paths -/

/-- The path finds nothing in the data. -/
def Path.isLost (data path : Value) : Bool :=
  match Path.resolveValue path data with
  | .ok value => value.isNull
  | .error _ => false

/-- The markers of a text whose paths find nothing in the data. -/
def Marker.lostPaths (data : Value) (text : String) : List String :=
  (Marker.paths text).filter fun path => Path.isLost data (.text path)

theorem unresolvedPaths_eq (data : Value) (id : String) (paths : List Value)
    (findings : List Finding) (ok : unresolvedPaths data id paths = .ok findings) :
    findings = (paths.filter (Path.isLost data)).map fun path =>
      .unresolvedBinding path.plain id := by
  induction paths generalizing findings with
  | nil => exact (Except.ok.inj ok).symm
  | cons path rest ih =>
      obtain ⟨value, found, later⟩ := (Attempt.bind_eq_ok_iff _ _ _).mp ok
      obtain ⟨others, after, whole⟩ := (Attempt.bind_eq_ok_iff _ _ _).mp later
      have lost : Path.isLost data path = value.isNull := by rw [Path.isLost, found]
      rw [← (Attempt.pure_eq_ok_iff _ _).mp whole, ih others after, List.filter_cons, lost]
      cases value.isNull <;> rfl

/-- What is reported about the paths of an entry. -/
def Component.unresolved (data : Value) (component : Component) : List Finding :=
  match component.paths with
  | .ok paths =>
      (paths.filter (Path.isLost data)).map fun path => .unresolvedBinding path.plain component.id
  | .error _ => []

theorem Component.mem_unresolved (data : Value) (component : Component) :
    ∀ finding ∈ component.unresolved data, ∃ path, finding = .unresolvedBinding path component.id := by
  intro finding member
  unfold unresolved at member
  split at member
  · obtain ⟨path, _, rfl⟩ := List.mem_map.mp member
    exact ⟨path.plain, rfl⟩
  · cases member

theorem flatten_unresolved (components : List Component) (data : Value)
    (parts : List (List Finding))
    (made : (components.mapM fun component => do
      unresolvedPaths data component.id (← component.paths)) = .ok parts) :
    parts.flatten = components.flatMap (Component.unresolved data) := by
  induction components generalizing parts with
  | nil =>
      rw [List.mapM_nil] at made
      rw [← (Attempt.pure_eq_ok_iff _ _).mp made]
      rfl
  | cons component rest ih =>
      rw [List.mapM_cons] at made
      obtain ⟨first, one, later⟩ := (Attempt.bind_eq_ok_iff _ _ _).mp made
      obtain ⟨others, several, whole⟩ := (Attempt.bind_eq_ok_iff _ _ _).mp later
      obtain ⟨paths, listed, checked⟩ := (Attempt.bind_eq_ok_iff _ _ _).mp one
      rw [← (Attempt.pure_eq_ok_iff _ _).mp whole, List.flatten_cons, List.flatMap_cons,
        ih others several, unresolvedPaths_eq data component.id paths first checked,
        Component.unresolved, listed]

theorem checkBindings_eq (components : List Component) (data : Value) (findings : List Finding)
    (ok : checkBindings components data = .ok findings) :
    findings = components.flatMap (Component.unresolved data) := by
  obtain ⟨parts, made, whole⟩ := (Attempt.bind_eq_ok_iff _ _ _).mp ok
  rw [← (Attempt.pure_eq_ok_iff _ _).mp whole]
  exact flatten_unresolved components data parts made

/-! ### Blocks of findings -/

-- Where each part of a list says whose part it is, two lists are the same just when all parts are.
theorem flatMap_eq_flatMap_iff {α β γ : Type} [DecidableEq γ] (tag : β → γ) (key : α → γ)
    (f g : α → List β) (xs : List α) (distinct : (xs.map key).Nodup)
    (left : ∀ x ∈ xs, ∀ y ∈ f x, tag y = key x) (right : ∀ x ∈ xs, ∀ y ∈ g x, tag y = key x) :
    xs.flatMap f = xs.flatMap g ↔ ∀ x ∈ xs, f x = g x := by
  induction xs with
  | nil => simp
  | cons x rest ih =>
      obtain ⟨fresh, others⟩ := List.nodup_cons.mp distinct
      obtain ⟨leftHere, leftRest⟩ := List.forall_mem_cons.mp left
      obtain ⟨rightHere, rightRest⟩ := List.forall_mem_cons.mp right
      -- The parts of the first element are those under its tag.
      have first : ∀ h : α → List β, (∀ y ∈ h x, tag y = key x) →
          (∀ z ∈ rest, ∀ y ∈ h z, tag y = key z) →
          ((x :: rest).flatMap h).filter (fun y => tag y = key x) = h x := by
        intro h here later
        have all : (h x).filter (fun y => tag y = key x) = h x :=
          List.filter_eq_self.mpr fun y member => by simpa using here y member
        have none_ : (rest.flatMap h).filter (fun y => tag y = key x) = [] := by
          refine List.filter_eq_nil_iff.mpr fun y member => ?_
          obtain ⟨z, inside, part⟩ := List.mem_flatMap.mp member
          have other : key z ≠ key x := fun same =>
            fresh (same ▸ List.mem_map_of_mem inside)
          simpa [later z inside y part] using other
        rw [List.flatMap_cons, List.filter_append, all, none_, List.append_nil]
      rw [List.forall_mem_cons, ← ih others leftRest rightRest]
      constructor
      · intro same
        have here : f x = g x := by
          rw [← first f leftHere leftRest, same, first g rightHere rightRest]
        rw [List.flatMap_cons, List.flatMap_cons, here] at same
        exact ⟨here, List.append_cancel_left same⟩
      · rintro ⟨here, later⟩
        rw [List.flatMap_cons, List.flatMap_cons, here, later]

/-! ### Charts -/

namespace Widget.Chart

variable (data : Value) (props : Fields)

/-- Putting the data into the title leaves the markers that find nothing in it as they are. -/
def KeepsTitle : Prop :=
  ∀ title text, props.get "title" = .text title → Marker.occursIn (.text title) = true →
    Marker.interpolate title data = .ok text → Marker.lostPaths data text = Marker.lostPaths data title

theorem lost_markerPaths (id title : String) :
    ((Component.markerPaths (.text title)).filter (Path.isLost data)).map
        (fun path => Finding.unresolvedBinding path.plain id) =
      (Marker.lostPaths data title).map fun path => .unresolvedBinding path id := by
  rw [Component.markerPaths, List.filter_map, List.map_map]
  rfl

/-- A chart's entry in a preview reports what it reports without one just when its title keeps its lost
markers. -/
theorem unresolved_iff (id : String) (filled : Fields) (shown plain : Component)
    (given : data.isNull = false) (bound : Preview.bound .chart props data = .ok filled)
    (shownMade : Chart.component id (resolve defaults filled) = .ok shown)
    (plainMade : Chart.component id (resolve defaults props) = .ok plain) :
    shown.unresolved data = plain.unresolved data ↔ KeepsTitle data props := by
  have fills := Preview.bound_fillsChart props data filled given bound
  have binding := get_resolve_of_without defaults props filled Preview.filledNames
    (Preview.bound_fills props data .chart filled bound).without_eq "binding" (by decide)
  obtain ⟨items, listed, plainPaths⟩ := component_paths id _ plain plainMade
  obtain ⟨own, ownListed, shownPaths⟩ := component_paths id _ shown shownMade
  obtain ⟨others, otherListed, kept⟩ := fills.datasets props data filled items listed
  obtain rfl := Except.ok.inj (ownListed.symm.trans otherListed)
  -- Only what the titles contribute can differ.
  have titles : shown.unresolved data = plain.unresolved data ↔
      ((Component.markerPaths ((resolve defaults filled).get "title")).filter
          (Path.isLost data)).map (fun path => Finding.unresolvedBinding path.plain id) =
        ((Component.markerPaths ((resolve defaults props).get "title")).filter
          (Path.isLost data)).map (fun path => Finding.unresolvedBinding path.plain id) := by
    rw [Component.unresolved, Component.unresolved, shownPaths, plainPaths,
      (Prod.mk.inj (component_tag id _ shown shownMade)).1,
      (Prod.mk.inj (component_tag id _ plain plainMade)).1, binding, kept]
    simp only [List.filter_append, List.map_append, List.append_cancel_right_eq,
      List.append_cancel_left_eq]
  rw [titles]
  rcases fills.title_cases props data filled with
    ⟨same, plain⟩ | ⟨title, text, own, marked, filledIn, shownTitle, plainTitle⟩
  · rw [same]
    refine iff_of_true rfl fun title text own marked => ?_
    rw [plain title own] at marked
    cases marked
  · rw [shownTitle, plainTitle, lost_markerPaths, lost_markerPaths,
      (List.map_injective_iff.mpr fun first second same => (Finding.unresolvedBinding.inj same).1).eq_iff]
    constructor
    · intro same other otherText ownOther _ filledOther
      obtain rfl := Value.text.inj (own.symm.trans ownOther)
      obtain rfl := Except.ok.inj (filledIn.symm.trans filledOther)
      exact same
    · exact fun keeps => keeps title text own marked filledIn

end Widget.Chart

/-! ### Single widgets -/

/-- The widget is no chart that is shown with a title that loses or gains lost markers. -/
def Node.KeepsTitle (data : Value) (node : Node) : Prop :=
  node.type = "Chart" → isHidden (resolve Chart.defaults node.props) = false →
    Chart.KeepsTitle data node.props

namespace Own

variable (s : Surroundings) (node : Node) (standard : s.registry = .standard)
include standard

/-- A widget reports the same in a preview as without one, save for a chart that is shown and whose title
does not keep its lost markers. -/
theorem unresolved_preview_iff (given : s.data.isNull = false)
    (static : ∀ finding ∈ (ofNode s.withoutData node).findings, finding.code ≠ "RENDER_FAILED")
    (shown : ∀ finding ∈ (ofNode s node).findings, finding.code ≠ "RENDER_FAILED") :
    (ofNode s node).components.flatMap (Component.unresolved s.data) =
        (ofNode s.withoutData node).components.flatMap (Component.unresolved s.data) ↔
      node.KeepsTitle s.data := by
  by_cases chart : node.type = "Chart"
  · have registered : Kind.ofName? node.type = some .chart := by rw [chart]; rfl
    have shownEntry := components_of_chart s node standard registered shown
    have staticEntry := components_of_chart s.withoutData node standard registered static
    by_cases away : isHidden (resolve Chart.defaults node.props) = true
    · rw [if_pos away] at shownEntry staticEntry
      rw [shownEntry, staticEntry]
      exact iff_of_true rfl fun _ impossible => absurd impossible (by simp [away])
    · rw [if_neg away] at shownEntry staticEntry
      obtain ⟨filled, component, bound, made, listed⟩ := shownEntry
      obtain ⟨own, plain, unbound, plainMade, plainListed⟩ := staticEntry
      rw [Preview.bound_of_null .chart node.props _ rfl] at unbound
      obtain rfl := Except.ok.inj unbound
      have core := Chart.unresolved_iff s.data node.props node.id filled component plain given bound
        made plainMade
      rw [listed, plainListed, List.flatMap_singleton, List.flatMap_singleton, core]
      exact ⟨fun keeps _ _ => keeps, fun keeps => keeps chart (Bool.eq_false_iff.mpr away)⟩
  · rw [(components_preview s node standard static shown).2 chart]
    exact iff_of_true rfl fun same => absurd same chart

end Own

/-! ### Exports -/

/-- The finding is about a binding that finds nothing. -/
def Finding.isUnresolved (finding : Finding) : Bool := finding.code == "UNRESOLVED_BINDING"

namespace Exporter

variable (e : Exporter)

theorem filter_unresolved (components : List Component) (data : Value) :
    (components.flatMap (Component.unresolved data)).filter Finding.isUnresolved =
      components.flatMap (Component.unresolved data) := by
  refine List.filter_eq_self.mpr fun finding member => ?_
  obtain ⟨component, _, about⟩ := List.mem_flatMap.mp member
  obtain ⟨path, rfl⟩ := component.mem_unresolved data finding about
  rfl

/-- Two compilations that find the same report the same bindings just when all placed widgets do. -/
theorem unresolved_compile_iff (s : Surroundings) (tree : Tree) (standard : s.registry = .standard)
    (distinct : tree.keys.Nodup) (given : s.data.isNull = false) (shown : (compile s tree).IsWhole)
    (static : (compile s.withoutData tree).IsWhole) :
    (compile s tree).components.flatMap (Component.unresolved s.data) =
        (compile s.withoutData tree).components.flatMap (Component.unresolved s.data) ↔
      ∃ entries, tree.Places s.withoutData entries ∧
        ∀ entry ∈ entries, entry.2.KeepsTitle s.data := by
  obtain ⟨entries, filled, plain, _⟩ := exists_places_preview s tree standard distinct shown static
  have parts : ∀ other : Surroundings, other.registry = .standard → ∀ entry ∈ entries,
      ∀ finding ∈ (Own.ofNode other entry.2).components.flatMap (Component.unresolved s.data),
        finding.widget? = some entry.2.id := by
    intro other otherStandard entry _ finding member
    obtain ⟨component, inside, about⟩ := List.mem_flatMap.mp member
    obtain ⟨path, rfl⟩ := component.mem_unresolved s.data finding about
    rw [Finding.widget?, Own.components_id other entry.2 otherStandard component inside]
  have distinctIds : (entries.map fun entry => some entry.2.id).Nodup := by
    have tagged : ((idsOf entries).map some).Nodup :=
      List.Nodup.map (fun _ _ same => Option.some.inj same) filled.nodup_ids
    rwa [idsOf, List.map_map] at tagged
  have each : ∀ entry ∈ entries, _ := fun entry member =>
    Own.unresolved_preview_iff s entry.2 standard given
      (fun finding found => static finding (plain.findings_subset entry member found))
      (fun finding found => shown finding (filled.findings_subset entry member found))
  rw [filled.components_eq, plain.components_eq, List.flatMap_assoc, List.flatMap_assoc,
    flatMap_eq_flatMap_iff Finding.widget? (fun entry => some entry.2.id) _ _ entries distinctIds
      (parts s standard) (parts s.withoutData standard)]
  constructor
  · exact fun same => ⟨entries, plain, fun entry member => (each entry member).mp (same entry member)⟩
  · rintro ⟨others, places, keep⟩ entry member
    obtain rfl := plain.unique others places
    exact (each entry member).mpr (keep entry member)

-- What does not ask for images holds of the widgets of the template as of those that are exported.
theorem exists_places_mapProps_iff (s : Surroundings) (tree : Tree) (f : Fields → Fields)
    (standard : s.registry = .standard) (static : s.data.isNull = true)
    (keeps : KeepsAllButImages f) (distinct : tree.keys.Nodup) (holds : Node → Prop)
    (same : ∀ node, holds (node.mapProps f) ↔ holds node) :
    (∃ entries, (tree.mapProps f).Places s entries ∧ ∀ entry ∈ entries, holds entry.2) ↔
      ∃ entries, tree.Places s entries ∧ ∀ entry ∈ entries, holds entry.2 := by
  obtain ⟨entries, plain, inlined, _⟩ :=
    exists_places_mapProps s tree f standard static keeps distinct
  have transfer : (∀ entry ∈ mapEntries f entries, holds entry.2) ↔
      ∀ entry ∈ entries, holds entry.2 := by
    rw [mapEntries, List.forall_mem_map]
    exact forall₂_congr fun entry _ => same entry.2
  constructor
  · rintro ⟨others, places, all⟩
    obtain rfl := inlined.unique others places
    exact ⟨entries, plain, transfer.mp all⟩
  · rintro ⟨others, places, all⟩
    obtain rfl := plain.unique others places
    exact ⟨mapEntries f others, inlined, transfer.mpr all⟩

/-- With and without a preview an export reports the same bindings just when every chart that is shown keeps
the lost markers of its title. -/
theorem exportTree_unresolved_iff (tree : Tree) (data : Value) (options : ExportOptions)
    (distinct : tree.keys.Nodup) (given : data.isNull = false) (shown static : ExportResult)
    (on : (e.exportTree tree data { options with showsData := true }).outcome = .ok shown)
    (off : (e.exportTree tree data { options with showsData := false }).outcome = .ok static)
    (shownWhole : ∀ finding ∈ shown.findings, finding.code ≠ "RENDER_FAILED")
    (staticWhole : ∀ finding ∈ static.findings, finding.code ≠ "RENDER_FAILED") :
    shown.findings.filter Finding.isUnresolved = static.findings.filter Finding.isUnresolved ↔
      ∃ entries, tree.Places (e.surroundings {} .null) entries ∧
        ∀ entry ∈ entries, entry.2.KeepsTitle data := by
  let s := e.surroundings { options with showsData := true } data
  obtain ⟨f, keeps, prepared⟩ := e.exists_prepare_eq options tree
  have keys : (tree.mapProps f).keys.Nodup := by
    rw [Tree.keys_mapProps]
    exact distinct
  have onRun : (e.finish "single" [(e.prepare options tree).2] (compile s (tree.mapProps f)) data
      { options with showsData := true }).outcome = .ok shown :=
    (e.outcome_of_prepared tree data options true _ f prepared).symm.trans on
  have offRun : (e.finish "single" [(e.prepare options tree).2]
      (compile s.withoutData (tree.mapProps f)) data
      { options with showsData := false }).outcome = .ok static :=
    (e.outcome_of_prepared tree data options false _ f prepared).symm.trans off
  obtain ⟨unresolved, checked, shownFindings⟩ := e.findings_of_finish _ _ _ _ _ shown onRun
  obtain ⟨plain, plainChecked, staticFindings⟩ := e.findings_of_finish _ _ _ _ _ static offRun
  have shownIs : (compile s (tree.mapProps f)).IsWhole := fun finding member =>
    shownWhole finding (shownFindings ▸ List.mem_append_left _ (List.mem_append_right _ member))
  have staticIs : (compile s.withoutData (tree.mapProps f)).IsWhole := fun finding member =>
    staticWhole finding (staticFindings ▸ List.mem_append_left _ (List.mem_append_right _ member))
  rw [bindingFindings, given, if_neg Bool.false_ne_true] at checked plainChecked
  obtain ⟨_, _, _, same, _⟩ :=
    exists_places_preview s (tree.mapProps f) rfl keys shownIs staticIs
  -- All that stands before the bindings is found with and without a preview.
  rw [shownFindings, staticFindings, same]
  simp only [List.filter_append, List.append_cancel_left_eq]
  rw [checkBindings_eq _ _ _ checked, checkBindings_eq _ _ _ plainChecked, filter_unresolved,
    filter_unresolved]
  refine (unresolved_compile_iff s (tree.mapProps f) rfl keys given shownIs staticIs).trans ?_
  refine exists_places_mapProps_iff s.withoutData tree f rfl rfl keeps distinct
    (Node.KeepsTitle data) fun node => ?_
  have hidden : isHidden (resolve Chart.defaults (node.mapProps f).props) =
      isHidden (resolve Chart.defaults node.props) :=
    isHidden_congr _ _ (get_resolve_of_without Chart.defaults node.props (f node.props)
      Asset.imageProps (keeps node.props) "visible" (by decide))
  have title : (node.mapProps f).props.get "title" = node.props.get "title" :=
    keeps.get_eq f node.props "title" (by decide)
  rw [Node.KeepsTitle, Node.KeepsTitle, Chart.KeepsTitle, Chart.KeepsTitle, hidden, title]
  rfl

theorem exportTree_unresolved_found :
    let chart : Node :=
      { Node.bare "c" "Chart" [] with props := [("title", .text "\x7b\x7btotal\x7d\x7d")] }
    let text : Node := { Node.bare "t" "Text" [] with props := [("binding", .text "missing")] }
    let tree : Tree := { nodes := [("c", chart), ("t", text)], rootId := none }
    let data : Value := .object [("total", .int 3)]
    ∃ shown static : ExportResult,
      (offline.exportTree tree data { showsData := true }).outcome = .ok shown ∧
        (offline.exportTree tree data { showsData := false }).outcome = .ok static ∧
        static.findings = [.unresolvedBinding "missing" "t"] ∧
        shown.findings.filter Finding.isUnresolved =
          static.findings.filter Finding.isUnresolved := by
  intro chart text tree data
  have settings : ∀ entry ∈ tree.nodes, (Value.object entry.2.props).holdsDate = false := by decide
  have checked : ∀ showsData, bindingFindings (compile (offline.surroundings { showsData } data)
      (offline.prepare { showsData } tree).1) data = .ok [.unresolvedBinding "missing" "t"] := by
    intro showsData
    refine Attempt.eq_ok_of_toOption _ _ ?_
    cases showsData <;> decide +kernel
  obtain ⟨shown, on, shownFindings⟩ := offline.exists_result tree data { showsData := true } _ rfl
    (by decide) settings (by decide) (checked true)
  obtain ⟨static, off, staticFindings⟩ := offline.exists_result tree data { showsData := false } _ rfl
    (by decide) settings (by decide) (checked false)
  have shownFindings : shown.findings = [.unresolvedBinding "missing" "t"] :=
    shownFindings.trans (by decide +kernel)
  have staticFindings : static.findings = [.unresolvedBinding "missing" "t"] :=
    staticFindings.trans (by decide +kernel)
  have keeps : ∀ entry ∈ tree.nodes, entry.2.KeepsTitle data := by
    refine List.forall_mem_cons.mpr ⟨?_, List.forall_mem_singleton.mpr fun impossible => ?_⟩
    · intro _ _ title shownTitle own _ filled
      obtain rfl := Value.text.inj own
      have three : Marker.interpolate "\x7b\x7btotal\x7d\x7d" data = .ok "3" :=
        Attempt.eq_ok_of_toOption _ _ (by decide +kernel)
      obtain rfl := Except.ok.inj (three.symm.trans filled)
      decide +kernel
    · exact absurd impossible (by decide)
  obtain ⟨visits, walk⟩ :=
    Outline.ofTree_walk (offline.surroundings {} .null) tree (by decide) ""
  have places : tree.Places (offline.surroundings {} .null) (placed visits) := ⟨visits, walk, rfl⟩
  refine ⟨shown, static, on, off, staticFindings, ?_⟩
  refine (offline.exportTree_unresolved_iff tree data {} (by decide) rfl shown static on off
    ?_ ?_).mpr ⟨_, places, fun entry member => keeps entry (places.subset member)⟩
  · rw [shownFindings]
    decide
  · rw [staticFindings]
    decide

-- The marker in the title is gone before its path is read, and nothing tells that it found nothing.
theorem exportTree_loses_marker :
    let chart : Node :=
      { Node.bare "c" "Chart" [] with props := [("title", .text "\x7b\x7bmissing\x7d\x7d")] }
    let tree : Tree := { nodes := [("c", chart)], rootId := none }
    let data : Value := .object [("x", .int 1)]
    ∃ shown static : ExportResult,
      (offline.exportTree tree data { showsData := true }).outcome = .ok shown ∧
        (offline.exportTree tree data { showsData := false }).outcome = .ok static ∧
        shown.findings = [] ∧ static.findings = [.unresolvedBinding "missing" "c"] ∧
        shown.findings.filter Finding.isUnresolved ≠
          static.findings.filter Finding.isUnresolved := by
  intro chart tree data
  have settings : ∀ entry ∈ tree.nodes, (Value.object entry.2.props).holdsDate = false := by decide
  obtain ⟨shown, on, found⟩ := offline.exists_result tree data { showsData := true } [] rfl
    (by decide) settings (by decide) (Attempt.eq_ok_of_toOption _ _ (by decide +kernel))
  obtain ⟨static, off, plain⟩ := offline.exists_result tree data { showsData := false }
    [.unresolvedBinding "missing" "c"] rfl (by decide) settings (by decide)
    (Attempt.eq_ok_of_toOption _ _ (by decide +kernel))
  have shownFindings : shown.findings = [] := found.trans (by decide +kernel)
  have staticFindings : static.findings = [.unresolvedBinding "missing" "c"] :=
    plain.trans (by decide +kernel)
  refine ⟨shown, static, on, off, shownFindings, staticFindings, ?_⟩
  rw [shownFindings, staticFindings]
  decide

end Exporter

end ReportCompiler
