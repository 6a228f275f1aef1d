import ReportCompiler.Proofs.Compile.Alongside
import ReportCompiler.Proofs.Widget.Settings

/-!
What a preview has in common with the template without data. Sample data is filled into settings that decide
neither over what is shown nor over what is found, so that both documents have the same widgets; the entries
of all widgets but charts are built from their own settings.
-/

namespace ReportCompiler

open ReportCompiler.Widget

/-- The same surroundings without sample data. -/
def Surroundings.withoutData (s : Surroundings) : Surroundings := { s with data := .null }

/-- No widget failed to be rendered. -/
def Compiled.IsWhole (compiled : Compiled) : Prop :=
  ∀ finding ∈ compiled.findings, finding.code ≠ "RENDER_FAILED"

namespace Preview

-- Whether a widget is visible is no setting that data can be put into.
theorem isHidden_of_bound (kind : Kind) (props filled : Fields) (data : Value)
    (made : bound kind props data = .ok filled) :
    isHidden (resolve kind.defaults filled) = isHidden (resolve kind.defaults props) :=
  isHidden_congr _ _ (get_resolve_of_without kind.defaults props filled filledNames
    (bound_fills props data kind filled made).without_eq "visible" (by decide))

end Preview

/-- What the document tells the embedded program about an entry besides its settings. -/
def Component.tag (component : Component) : String × String := (component.id, component.type)

theorem Widget.Chart.component_tag (id : String) (props : Fields) (component : Component)
    (made : Chart.component id props = .ok component) : component.tag = (id, Kind.chart.label) := by
  obtain ⟨labels, _, rest⟩ := (Attempt.bind_eq_ok_iff _ _ _).mp made
  obtain ⟨datasets, _, rest⟩ := (Attempt.bind_eq_ok_iff _ _ _).mp rest
  obtain ⟨bindings, _, whole⟩ := (Attempt.bind_eq_ok_iff _ _ _).mp rest
  rw [← (Attempt.pure_eq_ok_iff _ _).mp whole]
  rfl

theorem Widget.Kind.entry_id (kind : Kind) (id : String) (props : Fields) (component : Component)
    (made : kind.entry id props = .ok (some component)) : component.id = id := by
  have entered : ∀ (other : Kind) (names : List String) (bound : Bool),
      component? other names bound id props = some component → component.id = id := by
    intro other names bound entry
    unfold component? at entry
    split at entry
    · rw [← Option.some.inj entry]
    · cases entry
  cases kind with
  | chart =>
      obtain ⟨own, built, same⟩ := (Attempt.map_eq_ok_iff _ _ _).mp made
      rw [← Option.some.inj same]
      exact (Prod.mk.inj (Chart.component_tag id props own built)).1
  | pageNumber => cases made
  | _ => exact entered _ _ _ (Except.ok.inj made)

/-! ### Single widgets -/

namespace Own

/-- The settings that the entry of a widget is built from: charts alone have data filled in. -/
def enteredProps (s : Surroundings) (kind : Kind) (node : Node) : Except Fault Fields :=
  if kind = .chart then Preview.bound kind node.props s.data else .ok node.props

theorem render_spec (s : Surroundings) (kind : Kind) (node : Node) (result : Rendered)
    (ok : Own.render s kind.renderer node = .ok result) :
    (result.html == "") = isHidden (resolve kind.defaults node.props) ∧
      ∃ entered, enteredProps s kind node = .ok entered ∧
        kind.renderer.component node.id entered = .ok result.component := by
  unfold Own.render at ok
  split at ok
  · next absent =>
      obtain ⟨empty, entry⟩ := kind.gist_of_render s.now node.id node.props result ok
      refine ⟨empty, node.props, ?_, entry⟩
      rw [enteredProps, Preview.bound_of_null kind node.props s.data absent, ite_self]
  · obtain ⟨filled, bound, shown⟩ := (Attempt.bind_eq_ok_iff _ _ _).mp ok
    obtain ⟨first, rendered, rest⟩ := (Attempt.bind_eq_ok_iff _ _ _).mp shown
    have bound : Preview.bound kind node.props s.data = .ok filled := bound
    obtain ⟨empty, entry⟩ := kind.gist_of_render s.now node.id filled first rendered
    rw [Preview.isHidden_of_bound kind node.props filled s.data bound] at empty
    split at rest
    · next fromData =>
        have chart : kind = .chart := by simpa [Kind.renderer] using fromData
        rw [← (Attempt.pure_eq_ok_iff _ _).mp rest]
        exact ⟨empty, filled, by rw [enteredProps, if_pos chart, bound], entry⟩
    · next notFromData =>
        have other : kind ≠ .chart := by simpa [Kind.renderer] using notFromData
        obtain ⟨own, made, whole⟩ := (Attempt.bind_eq_ok_iff _ _ _).mp rest
        rw [← (Attempt.pure_eq_ok_iff _ _).mp whole]
        exact ⟨empty, node.props, by rw [enteredProps, if_neg other], made⟩

theorem render_of_whole (s : Surroundings) (kind : Kind) (node : Node)
    (standard : s.registry = .standard) (registered : Kind.ofName? node.type = some kind)
    (whole : ∀ finding ∈ (ofNode s node).findings, finding.code ≠ "RENDER_FAILED") :
    ∃ result, Own.render s kind.renderer node = .ok result ∧
      ofNode s node = rendered node kind.holdsChildren result (conditionFindings node) := by
  cases attempt : Own.render s kind.renderer node with
  | error fault =>
      rw [ofNode_of_fault s node kind fault standard registered attempt] at whole
      exact absurd rfl (whole _ (List.mem_append_right _ (List.mem_singleton_self _)))
  | ok result => exact ⟨result, rfl, ofNode_of_render s node kind result standard registered attempt⟩

/-- A widget has at most one entry, under its own id. -/
theorem components_id_sublist (s : Surroundings) (node : Node) (standard : s.registry = .standard) :
    ((ofNode s node).components.map Component.id).Sublist [node.id] := by
  cases registered : Kind.ofName? node.type with
  | none =>
      rw [ofNode_of_unknown s node standard registered]
      exact List.Sublist.refl _
  | some kind =>
      cases attempt : Own.render s kind.renderer node with
      | error fault =>
          rw [ofNode_of_fault s node kind fault standard registered attempt]
          exact List.nil_sublist _
      | ok result =>
          obtain ⟨_, entered, _, entry⟩ := render_spec s kind node result attempt
          rw [ofNode_of_render s node kind result standard registered attempt, components_rendered]
          split
          · exact List.nil_sublist _
          · cases made : result.component with
            | none => exact List.nil_sublist _
            | some component =>
                rw [made] at entry
                rw [Kind.component_renderer] at entry
                split at entry
                · cases entry
                · have named := kind.entry_id node.id _ component entry
                  rw [Option.toList_some, List.map_singleton, named]

theorem components_id (s : Surroundings) (node : Node) (standard : s.registry = .standard) :
    ∀ component ∈ (ofNode s node).components, component.id = node.id := by
  intro component member
  have listed := (components_id_sublist s node standard).subset (List.mem_map_of_mem member)
  exact List.mem_singleton.mp listed

/-- A chart that is shown has one entry, with the data filled in. -/
theorem components_of_chart (s : Surroundings) (node : Node) (standard : s.registry = .standard)
    (registered : Kind.ofName? node.type = some .chart)
    (whole : ∀ finding ∈ (ofNode s node).findings, finding.code ≠ "RENDER_FAILED") :
    if isHidden (resolve Chart.defaults node.props) then (ofNode s node).components = []
    else ∃ filled component, Preview.bound .chart node.props s.data = .ok filled ∧
      Chart.component node.id (resolve Chart.defaults filled) = .ok component ∧
      (ofNode s node).components = [component] := by
  obtain ⟨result, ok, own⟩ := render_of_whole s .chart node standard registered whole
  obtain ⟨empty, filled, bound, entry⟩ := render_spec s .chart node result ok
  rw [enteredProps, if_pos rfl] at bound
  have hidden : isHidden (resolve Chart.defaults filled) =
      isHidden (resolve Chart.defaults node.props) :=
    Preview.isHidden_of_bound .chart node.props filled s.data bound
  have empty : (result.html == "") = isHidden (resolve Chart.defaults node.props) := empty
  rw [own, components_rendered, empty]
  split
  · rfl
  · next shown =>
      have seen := hidden.trans (Bool.eq_false_iff.mpr shown)
      rw [Kind.component_renderer_of_visible .chart node.id filled seen] at entry
      obtain ⟨component, made, same⟩ := (Attempt.map_eq_ok_iff _ _ _).mp entry
      exact ⟨filled, component, bound, made, by rw [← same]; rfl⟩

-- What is shown, opened and found follows from a widget's own settings, so that no data changes it.
theorem agrees_of_whole (s others : Surroundings) (node : Node) (standard : s.registry = .standard)
    (otherStandard : others.registry = .standard)
    (whole : ∀ finding ∈ (ofNode s node).findings, finding.code ≠ "RENDER_FAILED")
    (otherWhole : ∀ finding ∈ (ofNode others node).findings, finding.code ≠ "RENDER_FAILED") :
    Agrees (ofNode s node) (ofNode others node) := by
  cases registered : Kind.ofName? node.type with
  | none =>
      rw [ofNode_of_unknown s node standard registered,
        ofNode_of_unknown others node otherStandard registered]
      exact ⟨rfl, rfl, rfl⟩
  | some kind =>
      obtain ⟨result, ok, own⟩ := render_of_whole s kind node standard registered whole
      obtain ⟨other, otherOk, otherOwn⟩ :=
        render_of_whole others kind node otherStandard registered otherWhole
      have empty := (render_spec s kind node result ok).1
      have otherEmpty := (render_spec others kind node other otherOk).1
      rw [own, otherOwn]
      exact agrees_rendered node _ result other _ (otherEmpty.trans empty.symm)

section Previews

variable (s : Surroundings) (node : Node) (standard : s.registry = .standard)
  (static : ∀ finding ∈ (ofNode s.withoutData node).findings, finding.code ≠ "RENDER_FAILED")
  (shown : ∀ finding ∈ (ofNode s node).findings, finding.code ≠ "RENDER_FAILED")
include standard static shown

-- Both entries of a chart are built under its own id, from whatever settings.
theorem tags_of_chart (registered : Kind.ofName? node.type = some .chart) :
    (ofNode s node).components.map Component.tag =
      (ofNode s.withoutData node).components.map Component.tag := by
  have shownEntry := components_of_chart s node standard registered shown
  have staticEntry := components_of_chart s.withoutData node standard registered static
  split at shownEntry
  · next away =>
      rw [if_pos away] at staticEntry
      rw [shownEntry, staticEntry]
  · next seen =>
      rw [if_neg seen] at staticEntry
      obtain ⟨_, component, _, made, listed⟩ := shownEntry
      obtain ⟨_, plain, _, plainMade, plainListed⟩ := staticEntry
      rw [listed, plainListed, List.map_singleton, List.map_singleton,
        Chart.component_tag _ _ _ made, Chart.component_tag _ _ _ plainMade]

theorem components_of_other (kind : Kind) (registered : Kind.ofName? node.type = some kind)
    (other : kind ≠ .chart) : (ofNode s node).components = (ofNode s.withoutData node).components := by
  obtain ⟨result, ok, own⟩ := render_of_whole s kind node standard registered shown
  obtain ⟨plain, plainOk, plainOwn⟩ :=
    render_of_whole s.withoutData kind node standard registered static
  obtain ⟨empty, entered, filled, entry⟩ := render_spec s kind node result ok
  obtain ⟨plainEmpty, given, unfilled, plainEntry⟩ :=
    render_spec s.withoutData kind node plain plainOk
  rw [enteredProps, if_neg other] at filled unfilled
  obtain rfl := Except.ok.inj filled
  obtain rfl := Except.ok.inj unfilled
  rw [own, plainOwn, components_rendered, components_rendered, empty.trans plainEmpty.symm,
    Except.ok.inj (entry.symm.trans plainEntry)]

theorem components_preview :
    (ofNode s node).components.map Component.tag =
        (ofNode s.withoutData node).components.map Component.tag ∧
      (node.type ≠ "Chart" →
        (ofNode s node).components = (ofNode s.withoutData node).components) := by
  cases registered : Kind.ofName? node.type with
  | none =>
      rw [ofNode_of_unknown s node standard registered,
        ofNode_of_unknown s.withoutData node standard registered]
      exact ⟨rfl, fun _ => rfl⟩
  | some kind =>
      by_cases chart : kind = .chart
      · subst chart
        exact ⟨tags_of_chart s node standard static shown registered,
          fun other => absurd (Kind.name_of_ofName? registered).symm other⟩
      · have same := components_of_other s node standard static shown kind registered chart
        exact ⟨congrArg _ same, fun _ => same⟩

end Previews

end Own

/-! ### Whole templates -/

-- What widgets contribute leads the walk through the same places, whatever the data is.
theorem exists_places_beside (s others : Surroundings) (tree : Tree)
    (standard : s.registry = .standard) (otherStandard : others.registry = .standard)
    (distinct : tree.keys.Nodup) (whole : (compile s tree).IsWhole)
    (otherWhole : (compile others tree).IsWhole) :
    ∃ entries, tree.Places s entries ∧ tree.Places others entries ∧
      (compile s tree).findings = (compile others tree).findings ∧
      (compile s tree).widgetCount = (compile others tree).widgetCount := by
  have quiet : ∀ finding ∈ (compile s (tree.mapProps id)).findings,
      finding.code ≠ "RENDER_FAILED" := by
    rw [Tree.mapProps_id]
    exact whole
  obtain ⟨entries, there, here, _, findings, count⟩ :=
    compile_alongside id others s tree _ distinct otherWhole quiet fun entry _ calm =>
      Own.agrees_of_whole others s entry.2 otherStandard standard calm.1 calm.2
  rw [Tree.mapProps_id] at here findings count
  rw [mapEntries_id] at here
  exact ⟨entries, here, there, findings, count⟩

theorem exists_places_preview (s : Surroundings) (tree : Tree) (standard : s.registry = .standard)
    (distinct : tree.keys.Nodup) (shown : (compile s tree).IsWhole)
    (static : (compile s.withoutData tree).IsWhole) :
    ∃ entries, tree.Places s entries ∧ tree.Places s.withoutData entries ∧
      (compile s tree).findings = (compile s.withoutData tree).findings ∧
      (compile s tree).widgetCount = (compile s.withoutData tree).widgetCount :=
  exists_places_beside s s.withoutData tree standard standard distinct shown static

/-- A preview shows the same widgets, finds the same, and has the same entries in their order; those that
belong to no chart are the same in all they hold. -/
theorem compile_preview (s : Surroundings) (tree : Tree) (standard : s.registry = .standard)
    (distinct : tree.keys.Nodup) (shown : (compile s tree).IsWhole)
    (static : (compile s.withoutData tree).IsWhole) :
    (compile s tree).widgetCount = (compile s.withoutData tree).widgetCount ∧
      (compile s tree).findings = (compile s.withoutData tree).findings ∧
      (compile s tree).components.map Component.tag =
        (compile s.withoutData tree).components.map Component.tag ∧
      ∃ entries, tree.Places s entries ∧ tree.Places s.withoutData entries ∧
        (compile s tree).components =
          entries.flatMap (fun entry => (Own.ofNode s entry.2).components) ∧
        (compile s.withoutData tree).components =
          entries.flatMap (fun entry => (Own.ofNode s.withoutData entry.2).components) ∧
        ∀ entry ∈ entries, entry.2.type ≠ "Chart" →
          (Own.ofNode s entry.2).components = (Own.ofNode s.withoutData entry.2).components := by
  obtain ⟨entries, filled, plain, findings, count⟩ :=
    exists_places_preview s tree standard distinct shown static
  have each : ∀ entry ∈ entries, _ := fun entry member =>
    Own.components_preview s entry.2 standard
      (fun finding found => static finding (plain.findings_subset entry member found))
      (fun finding found => shown finding (filled.findings_subset entry member found))
  refine ⟨count, findings, ?_, entries, filled, plain, filled.components_eq, plain.components_eq,
    fun entry member => (each entry member).2⟩
  rw [filled.components_eq, plain.components_eq, List.map_flatMap, List.map_flatMap]
  exact List.flatMap_congr fun entry member => (each entry member).1

theorem compile_preview_bound :
    let text : Node := { Node.bare "t" "Text" [] with props := [("binding", .text "total")] }
    let chart : Node :=
      { Node.bare "c" "Chart" [] with props := [("title", .text "\x7b\x7btotal\x7d\x7d")] }
    let tree : Tree := { nodes := [("t", text), ("c", chart)], rootId := none }
    let s : Surroundings := { Surroundings.plain with data := .object [("total", .int 3)] }
    (compile s tree).IsWhole ∧ (compile s.withoutData tree).IsWhole ∧
      (compile s tree).components.map Component.tag =
        (compile s.withoutData tree).components.map Component.tag := by
  intro text chart tree s
  have shown : (compile s tree).IsWhole := by unfold Compiled.IsWhole; decide +kernel
  have static : (compile s.withoutData tree).IsWhole := by unfold Compiled.IsWhole; decide +kernel
  exact ⟨shown, static, (compile_preview s tree rfl (by decide) shown static).2.2.1⟩

end ReportCompiler
