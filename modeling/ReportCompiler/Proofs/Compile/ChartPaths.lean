import ReportCompiler.Compile.BindingCheck
import ReportCompiler.Proofs.Attempt
import ReportCompiler.Proofs.Binding.Marker
import ReportCompiler.Proofs.Preview.Filling
import ReportCompiler.Proofs.Widget.Settings

/-!
The paths of a chart's entry: the chart's own binding, the markers of its title, and the bindings of its
datasets. A preview keeps all of them but the markers.
-/

namespace ReportCompiler

namespace Component

/-- The binding of a dataset, where it has one. -/
def datasetBindings : Value → List Value
  | .object own => givenPath (Fields.get own "binding")
  | _ => []

theorem givenPath_given (value : Value) : givenPath (Widget.Chart.given value) = givenPath value := by
  unfold givenPath Widget.Chart.given Value.orElse
  by_cases present : value.isPresent = true
  · simp [present]
  · simp only [present, Bool.false_eq_true, if_false]
    rfl

theorem markerPaths_orElse (value : Value) :
    markerPaths (value.orElse (.text "")) = markerPaths value := by
  unfold Value.orElse
  split
  · rfl
  · next absent =>
      cases value with
      | text s =>
          have empty : s = "" := by simpa [Value.isPresent] using absent
          rw [empty]
      | _ => rfl

-- A title is kept only for its markers, and a title without them has no paths.
theorem titlePaths_kept (title : Value) :
    titlePaths (if Marker.occursIn title then title else .null) = .ok (markerPaths title) := by
  cases title with
  | text s =>
      cases marked : Marker.occursIn (.text s) with
      | true => rfl
      | false =>
          rw [if_neg Bool.false_ne_true, markerPaths, Marker.paths_of_not_occursIn s marked]
          rfl
  | _ => rfl

theorem mapM_datasetPath (given built : List Value)
    (made : given.mapM Widget.Chart.datasetBinding = .ok built) :
    built.mapM datasetPath = .ok (given.map datasetBindings) := by
  induction given generalizing built with
  | nil =>
      rw [List.mapM_nil] at made
      rw [← (Attempt.pure_eq_ok_iff _ _).mp made]
      rfl
  | cons dataset rest ih =>
      rw [List.mapM_cons] at made
      obtain ⟨first, one, later⟩ := (Attempt.bind_eq_ok_iff _ _ _).mp made
      obtain ⟨others, several, whole⟩ := (Attempt.bind_eq_ok_iff _ _ _).mp later
      obtain ⟨own, object, single⟩ := (Attempt.bind_eq_ok_iff _ _ _).mp one
      rw [← (Attempt.pure_eq_ok_iff _ _).mp whole, ← (Attempt.pure_eq_ok_iff _ _).mp single]
      have path : datasetPath (.object (Fields.withoutNulls
          [("binding", own.get "binding"), ("dataPoints", own.get "dataPoints")])) =
            .ok (datasetBindings dataset) := by
        have kept := Fields.get_withoutNulls
          [("binding", own.get "binding"), ("dataPoints", own.get "dataPoints")] "binding"
          (by simp)
        cases dataset with
        | object fields =>
            obtain rfl := Except.ok.inj object
            simp only [datasetPath, Value.field, Value.fields?, Except.map, kept, datasetBindings,
              Fields.get_cons_self]
        | _ => cases object
      rw [List.mapM_cons, path, ih others several]
      rfl

theorem paths_of_chart (component : Component) (bindings : Fields)
    (bound : component.props.get "bindings" = .object bindings)
    (unbound : component.props.get "binding" = .null)
    (untexted : component.props.get "text" = .null) : component.paths = chartPaths bindings := by
  simp only [paths, bound, bindingPaths, textPaths, unbound, untexted]
  cases chartPaths bindings <;> rfl

end Component

namespace Widget.Chart

open Component

theorem chartPaths_bindings (props bound : Fields) (made : bindings props = .ok bound) :
    ∃ given, datasets props = .ok given ∧
      chartPaths bound = .ok (givenPath (props.get "binding") ++
        markerPaths (props.get "title") ++ given.flatMap datasetBindings) := by
  obtain ⟨given, listed, rest⟩ := (Attempt.bind_eq_ok_iff _ _ _).mp made
  obtain ⟨built, several, whole⟩ := (Attempt.bind_eq_ok_iff _ _ _).mp rest
  have whole := (Attempt.pure_eq_ok_iff _ _).mp whole
  let title := (props.get "title").orElse (.text "")
  let fields : Fields :=
    [("title", if Marker.occursIn title then title else .null), ("datasets", .list built),
      ("primaryBinding", Chart.given (props.get "binding"))]
  have kept : ∀ name, bound.get name = Fields.get fields name := by
    intro name
    rw [← whole]
    exact Fields.get_withoutNulls fields name (by simp [fields])
  have primary : bound.get "primaryBinding" = Chart.given (props.get "binding") := kept _
  have titled : bound.get "title" = if Marker.occursIn title then title else .null := kept _
  have bounded : boundDatasets bound = .ok built := by
    have stored : Value.ofOption (bound.lookup "datasets") = .list built := kept "datasets"
    rw [boundDatasets]
    cases found : bound.lookup "datasets" with
    | none => rw [found] at stored; cases stored
    | some value =>
        rw [found] at stored
        rw [show value = .list built from stored]
        rfl
  refine ⟨given, listed, ?_⟩
  rw [chartPaths, titled, titlePaths_kept, markerPaths_orElse, bounded, primary, givenPath_given]
  simp only [bind, Except.bind, mapM_datasetPath given built several]
  rfl

/-- The paths of a chart's entry are read off its settings. -/
theorem component_paths (id : String) (props : Fields) (component : Component)
    (made : Chart.component id props = .ok component) :
    ∃ given, datasets props = .ok given ∧
      component.paths = .ok (givenPath (props.get "binding") ++
        markerPaths (props.get "title") ++ given.flatMap datasetBindings) := by
  obtain ⟨shownLabels, _, rest⟩ := (Attempt.bind_eq_ok_iff _ _ _).mp made
  obtain ⟨built, _, rest⟩ := (Attempt.bind_eq_ok_iff _ _ _).mp rest
  obtain ⟨bound, ofBindings, whole⟩ := (Attempt.bind_eq_ok_iff _ _ _).mp rest
  obtain ⟨given, listed, paths⟩ := chartPaths_bindings props bound ofBindings
  refine ⟨given, listed, ?_⟩
  rw [← paths, ← (Attempt.pure_eq_ok_iff _ _).mp whole]
  -- The condition, where there is one, comes last under a name of its own.
  refine paths_of_chart _ bound ?_ ?_ ?_ <;>
    · simp only [withCondition]
      cases condition? props <;> rfl

end Widget.Chart

/-! ### Charts in a preview -/

namespace Preview

open Component Widget

variable (props : Fields) (data : Value)

theorem bindDatasets_bindings (labels after items bound : List Value)
    (made : bindDatasets data labels items = .ok (bound, after)) :
    bound.flatMap datasetBindings = items.flatMap datasetBindings := by
  induction items generalizing labels bound with
  | nil =>
      obtain ⟨rfl, _⟩ := Prod.mk.inj (Except.ok.inj made)
      rfl
  | cons dataset rest ih =>
      obtain ⟨first, between, others, one, several, rfl⟩ :=
        bindDatasets_cons data labels after dataset rest bound made
      obtain ⟨own, rfl, changed⟩ := bindDataset_cases data labels between dataset first one
      have kept : datasetBindings first = datasetBindings (.object own) := by
        rcases changed with ⟨_, rfl, _⟩ | ⟨series, _, rfl, _⟩
        · rfl
        · rw [datasetBindings, datasetBindings, Fields.get_set_of_ne _ _ _ _ (by decide)]
      rw [List.flatMap_cons, List.flatMap_cons, kept, ih between others several]

theorem get_withLabels (labels : List Value) (name : String) (other : name ≠ "labels") :
    (withLabels labels props).get name = props.get name := by
  unfold withLabels
  split
  · rfl
  · exact Fields.get_set_of_ne props "labels" name _ other

theorem without_withLabels (names : List String) (labels : List Value) (known : "labels" ∈ names) :
    Fields.without names (withLabels labels props) = Fields.without names props := by
  unfold withLabels
  split
  · rfl
  · exact Fields.without_set names props "labels" _ known

theorem without_boundTitle (names : List String) (titled : Fields) (known : "title" ∈ names)
    (made : boundTitle props data = .ok titled) :
    Fields.without names titled = Fields.without names props := by
  rcases boundTitle_cases props data titled made with ⟨rfl, _⟩ | ⟨s, text, _, _, _, rfl⟩
  · rfl
  · exact Fields.without_set names props "title" _ known

theorem datasets_of_list (items : List Value) (list : props.get "datasets" = .list items) :
    Chart.datasets props = .ok items := by
  rw [Chart.datasets, list]
  cases items <;> rfl

/-- The settings that the series of a chart are put into, and the mark of its condition. -/
def seriesNames : List String := ["datasets", "dataPoints", "labels", hiddenByCondition]

/-- All that is filled into a chart which has no datasets. -/
def soleNames : List String := ["title", "dataPoints", "labels", hiddenByCondition]

/-- The title of a chart is filled in, and then its series are: either its datasets are bound one by one,
and keep their bindings, or they are left alone. -/
structure FillsChart (filled : Fields) : Prop where
  title : ∃ titled, boundTitle props data = .ok titled ∧
    Fields.without seriesNames filled = Fields.without seriesNames titled
  series : (∃ items bound, props.get "datasets" = .list items ∧ filled.get "datasets" = .list bound ∧
      bound.flatMap datasetBindings = items.flatMap datasetBindings) ∨
    Fields.without soleNames filled = Fields.without soleNames props

theorem bindChart_fillsChart (chart : Fields) (made : bindChart props data = .ok chart) :
    FillsChart props data chart := by
  obtain ⟨titled, title, rest⟩ := bindChart_cases props data chart made
  have others := without_boundTitle props data soleNames titled (by decide) title
  rcases rest with ⟨items, bound, labels, list, _, several, rfl⟩ | ⟨_, series, _, rfl⟩
  · refine ⟨⟨titled, title, ?_⟩, Or.inl ⟨items, bound, list, ?_,
      bindDatasets_bindings data [] labels items bound several⟩⟩
    · rw [without_withLabels _ _ _ (by decide), Fields.without_set _ _ _ _ (by decide)]
    · rw [get_withLabels _ _ _ (by decide), Fields.get_set_self]
  · cases series with
    | none => exact ⟨⟨titled, title, rfl⟩, Or.inr others⟩
    | some series =>
        refine ⟨⟨titled, title, ?_⟩, Or.inr ?_⟩
        · rw [without_withLabels _ _ _ (by decide), Fields.without_set _ _ _ _ (by decide)]
        · rw [without_withLabels _ _ _ (by decide), Fields.without_set _ _ _ _ (by decide), others]

theorem bound_fillsChart (filled : Fields) (given : data.isNull = false)
    (made : bound .chart props data = .ok filled) : FillsChart props data filled := by
  obtain ⟨change, refused, ofKind, _, rfl⟩ := bound_cases props data .chart filled given made
  obtain ⟨chart, own, rfl⟩ := (Attempt.map_eq_ok_iff _ _ _).mp ofKind
  have fills := bindChart_fillsChart props data chart own
  split
  · obtain ⟨titled, title, others⟩ := fills.title
    refine ⟨⟨titled, title, ?_⟩, ?_⟩
    · rw [← others]
      exact Fields.without_set seriesNames chart _ _ (by decide)
    · refine fills.series.imp ?_ fun rest => ?_
      · rintro ⟨items, bound, list, filled, same⟩
        refine ⟨items, bound, list, ?_, same⟩
        rw [← filled]
        exact Fields.get_set_of_ne chart _ _ _ (by decide)
      · rw [← rest]
        exact Fields.without_set soleNames chart _ _ (by decide)
  · exact fills

/-- A chart in a preview has the bindings of its datasets, whatever they are bound to. -/
theorem FillsChart.datasets (filled : Fields) (fills : FillsChart props data filled)
    (items : List Value) (listed : Chart.datasets (resolve Chart.defaults props) = .ok items) :
    ∃ bound, Chart.datasets (resolve Chart.defaults filled) = .ok bound ∧
      bound.flatMap datasetBindings = items.flatMap datasetBindings := by
  have stated : ∀ (given : Fields) (own : List Value), given.get "datasets" = .list own →
      Chart.datasets (resolve Chart.defaults given) = .ok own := by
    intro given own list
    refine datasets_of_list _ own ?_
    rw [get_resolve_of_given Chart.defaults given "datasets" (by rw [list]; rfl), list]
  rcases fills.series with ⟨own, bound, list, filledList, same⟩ | others
  · rw [stated props own list] at listed
    rw [← Except.ok.inj listed]
    exact ⟨bound, stated filled bound filledList, same⟩
  · refine ⟨items, ?_, rfl⟩
    rw [← listed, Chart.datasets, Chart.datasets, get_resolve_of_without Chart.defaults props filled
      soleNames others "datasets" (by decide)]

/-- A chart in a preview has the title that the data is put into. -/
theorem FillsChart.title_cases (filled : Fields) (fills : FillsChart props data filled) :
    (resolve Chart.defaults filled).get "title" = (resolve Chart.defaults props).get "title" ∧
        (∀ s, props.get "title" = .text s → Marker.occursIn (.text s) = false) ∨
      ∃ s text, props.get "title" = .text s ∧ Marker.occursIn (.text s) = true ∧
        Marker.interpolate s data = .ok text ∧
        (resolve Chart.defaults filled).get "title" = .text text ∧
        (resolve Chart.defaults props).get "title" = .text s := by
  obtain ⟨titled, made, others⟩ := fills.title
  have title := get_resolve_of_without Chart.defaults titled filled seriesNames others "title"
    (by decide)
  have stated : ∀ (given : Fields) (s : String), given.get "title" = .text s →
      (resolve Chart.defaults given).get "title" = .text s := by
    intro given s text
    rw [get_resolve_of_given Chart.defaults given "title" (by rw [text]; rfl), text]
  rcases boundTitle_cases props data titled made with
    ⟨rfl, plain⟩ | ⟨s, text, own, marked, filledIn, rfl⟩
  · exact Or.inl ⟨title, plain⟩
  · exact Or.inr ⟨s, text, own, marked, filledIn,
      title.trans (stated _ text (Fields.get_set_self props "title" _)), stated props s own⟩

end Preview

end ReportCompiler
