import ReportCompiler.Proofs.Compile.Preview
import ReportCompiler.Proofs.Widget.Entry

/-!
The entries of a compiled template: their leaves are leaves of the widgets' settings, ones that widgets add of
their own, or the points of charts. Sample data never gets into an entry but as text and as points.
-/

namespace ReportCompiler

open ReportCompiler.Widget

/-- The settings that the points of a chart are read from, with the data filled in. -/
def Own.pointSettings (s : Surroundings) (node : Node) : Except Fault (List Value) := do
  Chart.pointSettings (resolve Chart.defaults (← Preview.bound .chart node.props s.data))

/-- If the widget is a chart that is shown, this holds of all settings that its points are read from. -/
def Node.DrawsFrom (s : Surroundings) (holds : Value → Prop) (node : Node) : Prop :=
  node.type = "Chart" → (Own.ofNode s node).isShown = true →
    ∀ settings, Own.pointSettings s node = .ok settings → ∀ value ∈ settings, holds value

theorem Own.ofNode_of_unwritten (s : Surroundings) (node : Node) (kind : Kind) (result : Rendered)
    (standard : s.registry = .standard) (registered : Kind.ofName? node.type = some kind)
    (ok : Own.render s kind.renderer node = .ok result) (unwritten : result.html = "") :
    Own.ofNode s node = placeholder "" [] (conditionFindings node) := by
  rw [ofNode_of_render s node kind result standard registered ok, rendered,
    if_pos (beq_iff_eq.mpr unwritten)]

variable (leaf : Value → Prop)

section Fixed

variable (own : AdmitsFixed leaf)
include own

theorem Own.all_pointSettings (s : Surroundings) (node : Node) (settings : List Value)
    (all : Fields.All leaf node.props) (read : Own.pointSettings s node = .ok settings) :
    ∀ value ∈ settings, value.All leaf := by
  obtain ⟨filled, bound, rest⟩ := (Attempt.bind_eq_ok_iff _ _ _).mp read
  have kept := Preview.all_bound_chart leaf own node.props filled s.data all bound
  exact Chart.all_pointSettings leaf own _ settings (all_resolve leaf own .chart filled kept) rest

-- What decides over the points decides over their settings, as far as leaves can tell.
theorem Node.drawsFrom_congr (s : Surroundings) (node : Node) (all : Fields.All leaf node.props)
    (first second : Value → Prop)
    (same : ∀ value : Value, value.All leaf → (first value ↔ second value)) :
    node.DrawsFrom s first ↔ node.DrawsFrom s second := by
  unfold Node.DrawsFrom
  refine forall_congr' fun _ => forall_congr' fun _ => forall₂_congr fun settings read => ?_
  have given := Own.all_pointSettings leaf own s node settings all read
  exact forall₂_congr fun value member => same value (given value member)

theorem Own.all_chart_iff (s : Surroundings) (node : Node) (result : Rendered)
    (all : Fields.All leaf node.props) (written : result.html ≠ "")
    (ok : Own.render s Kind.chart.renderer node = .ok result) :
    (∀ component ∈ result.component, Fields.All leaf component.props) ↔
      ∀ settings, Own.pointSettings s node = .ok settings →
        ∀ value ∈ settings, ∀ n ∈ value.points, leaf (.number n) := by
  obtain ⟨empty, filled, entered, entry⟩ := Own.render_spec s .chart node result ok
  have bound : Preview.bound .chart node.props s.data = .ok filled := by
    rwa [Own.enteredProps, if_pos rfl] at entered
  have seen : isHidden (resolve Chart.defaults filled) = false := by
    rw [show isHidden (resolve Chart.defaults filled) = isHidden (resolve Chart.defaults node.props)
      from Preview.isHidden_of_bound .chart node.props filled s.data bound]
    exact empty.symm.trans (beq_eq_false_iff_ne.mpr written)
  rw [Kind.component_renderer_of_visible .chart node.id filled seen] at entry
  obtain ⟨component, made, same⟩ := (Attempt.map_eq_ok_iff _ _ _).mp entry
  have kept := all_resolve leaf own .chart filled
    (Preview.all_bound_chart leaf own node.props filled s.data all bound)
  obtain ⟨settings, read, holds⟩ := Chart.all_component_iff leaf own node.id _ component kept made
  have read : Own.pointSettings s node = .ok settings := by
    rw [Own.pointSettings, bound]
    exact read
  rw [← same, read]
  simpa using holds

theorem Own.all_other (s : Surroundings) (kind : Kind) (other : kind ≠ .chart) (node : Node)
    (result : Rendered) (all : Fields.All leaf node.props)
    (ok : Own.render s kind.renderer node = .ok result) :
    ∀ component ∈ result.component, Fields.All leaf component.props := by
  obtain ⟨-, entered, filled, entry⟩ := Own.render_spec s kind node result ok
  rw [Own.enteredProps, if_neg other] at filled
  rw [← Except.ok.inj filled] at entry
  exact all_renderer_component leaf own kind other node.id node.props _ all entry

theorem Own.all_components_iff (s : Surroundings) (node : Node) (standard : s.registry = .standard)
    (all : Fields.All leaf node.props) :
    (∀ component ∈ (Own.ofNode s node).components, Fields.All leaf component.props) ↔
      node.DrawsFrom s fun value => ∀ n ∈ value.points, leaf (.number n) := by
  unfold Node.DrawsFrom
  cases registered : Kind.ofName? node.type with
  | none =>
      rw [Own.ofNode_of_unknown s node standard registered]
      exact iff_of_true (List.forall_mem_singleton.mpr all) fun _ shown => by cases shown
  | some kind =>
      cases attempt : Own.render s kind.renderer node with
      | error fault =>
          rw [Own.ofNode_of_fault s node kind fault standard registered attempt]
          exact iff_of_true (fun component member => by cases member) fun _ shown => by cases shown
      | ok result =>
          by_cases unwritten : result.html = ""
          · rw [Own.ofNode_of_unwritten s node kind result standard registered attempt unwritten]
            exact iff_of_true (fun component member => by cases member) fun _ shown => by cases shown
          rw [Own.ofNode_of_render s node kind result standard registered attempt,
            Own.components_rendered, if_neg (fun empty => unwritten (beq_iff_eq.mp empty)),
            Own.isShown_rendered node _ result _ unwritten]
          simp only [Option.mem_toList, forall_const]
          have name : kind.name = node.type := Kind.name_of_ofName? registered
          by_cases chart : kind = .chart
          · subst chart
            have holds := Own.all_chart_iff leaf own s node result all unwritten attempt
            exact ⟨fun all _ => holds.mp all, fun draws => holds.mpr (draws name.symm)⟩
          · refine iff_of_true (Own.all_other leaf own s kind chart node result all attempt) ?_
            intro isChart
            rw [isChart] at registered
            exact absurd (Option.some.inj registered).symm chart

/-- The leaves of all entries are as they must be just when the points of the charts that are shown are. -/
theorem Tree.Places.all_components_iff {s : Surroundings} {tree : Tree}
    {entries : List (String × Node)} (places : tree.Places s entries)
    (standard : s.registry = .standard)
    (all : ∀ entry ∈ tree.nodes, Fields.All leaf entry.2.props) :
    (∀ component ∈ (compile s tree).components, Fields.All leaf component.props) ↔
      ∀ entry ∈ entries, entry.2.DrawsFrom s fun value => ∀ n ∈ value.points, leaf (.number n) := by
  have each := fun entry member =>
    Own.all_components_iff leaf own s entry.2 standard (all entry (places.subset member))
  rw [places.components_eq]
  simp only [List.mem_flatMap, forall_exists_index, and_imp]
  constructor
  · exact fun holds entry member =>
      (each entry member).mp fun component inside => holds component entry member inside
  · exact fun holds component entry member inside =>
      (each entry member).mpr (holds entry member) component inside

end Fixed

theorem compile_all_components (own : AdmitsOwn leaf) (s : Surroundings) (tree : Tree)
    (standard : s.registry = .standard) (distinct : tree.keys.Nodup)
    (all : ∀ entry ∈ tree.nodes, Fields.All leaf entry.2.props) :
    ∀ component ∈ (compile s tree).components, Fields.All leaf component.props := by
  obtain ⟨visits, walk⟩ := Outline.ofTree_walk s tree distinct ""
  have places : tree.Places s (placed visits) := ⟨visits, walk, rfl⟩
  exact (places.all_components_iff leaf own.toAdmitsFixed standard all).mpr
    fun entry member _ _ settings _ value _ n _ => own.number n

end ReportCompiler
