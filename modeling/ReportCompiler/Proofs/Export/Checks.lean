import ReportCompiler.Compile.BindingCheck
import ReportCompiler.Proofs.Binding.Marker

/-!
When the bindings of an entry can be checked against sample data at all: what has to be text is text, what
has to be a list of objects is one, and every path can be looked up.
-/

namespace ReportCompiler

open ReportCompiler.Text

/-- What has to hold of the bindings that a chart's entry carries. -/
structure BindingsAreCheckable (data : Value) (bindings : Fields) : Prop where
  title : (∃ s, bindings.get "title" = .text s ∧ MarkersAreReadable s data) ∨
    (bindings.get "title").isPresent = false
  primary : Path.CanBeLookedUp (bindings.get "primaryBinding") data
  datasets : ∀ value, bindings.lookup "datasets" = some value →
    ∃ items, value.items? = .ok items ∧ ∀ item ∈ items,
      ∃ own, item = .object own ∧ Path.CanBeLookedUp (Fields.get own "binding") data

/-- What has to hold of an entry. -/
structure Component.IsCheckable (data : Value) (component : Component) : Prop where
  binding : (component.props.get "binding").isPresent = true →
    Path.IsReadable (trim (component.props.get "binding").plain) data
  text : ∀ s, component.props.get "text" = .text s → Marker.occursIn (.text s) = true →
    MarkersAreReadable s data
  bindings : ∀ bindings, component.props.get "bindings" = .object bindings →
    BindingsAreCheckable data bindings

/-! ### Paths -/

namespace Path

theorem unresolvedPaths_succeeds_iff (data : Value) (id : String) (paths : List Value) :
    Attempt.Succeeds (unresolvedPaths data id paths) ↔
      ∀ path ∈ paths, CanBeLookedUp path data := by
  induction paths with
  | nil => simp [unresolvedPaths]
  | cons path rest ih =>
      rw [unresolvedPaths, Attempt.succeeds_bind_iff, List.forall_mem_cons,
        ← resolveValue_succeeds_iff, ← ih]
      constructor
      · rintro ⟨value, found, later⟩
        obtain ⟨others, after, _⟩ := (Attempt.succeeds_bind_iff _ _).mp later
        exact ⟨⟨value, found⟩, ⟨others, after⟩⟩
      · rintro ⟨⟨value, found⟩, ⟨others, after⟩⟩
        exact ⟨value, found, (Attempt.succeeds_bind_iff _ _).mpr ⟨others, after, by simp⟩⟩

theorem forall_givenPath_iff (path data : Value) :
    (∀ given ∈ Component.givenPath path, CanBeLookedUp given data) ↔ CanBeLookedUp path data := by
  unfold Component.givenPath
  by_cases given : path.isPresent = true
  · simp [given]
  · simp only [given, Bool.false_eq_true, if_false, List.not_mem_nil, false_implies, implies_true,
      true_iff]
    cases path with
    | text s =>
        have empty : s = "" := by simpa [Value.isPresent] using given
        exact Or.inl empty
    | _ => exact Or.inl (by simpa using given)

end Path

/-! ### Entries -/

/-- The paths can be found out, and every one can be looked up. -/
def AreCheckable (data : Value) (paths : Except Fault (List Value)) : Prop :=
  ∃ found, paths = .ok found ∧ ∀ path ∈ found, Path.CanBeLookedUp path data

namespace Component

theorem titlePaths_checkable_iff (title data : Value) :
    AreCheckable data (titlePaths title) ↔
      (∃ s, title = .text s ∧ MarkersAreReadable s data) ∨ title.isPresent = false := by
  -- Anything but text is refused, unless there is nothing in it.
  have untitled : ∀ value : Value, (∀ s, value ≠ .text s) →
      titlePaths value = if value.isPresent then .error .notSearchable else .ok [] := by
    intro value other
    cases value with
    | text s => exact absurd rfl (other s)
    | _ => rfl
  cases title with
  | text s =>
      have listed : AreCheckable data (titlePaths (.text s)) ↔ MarkersAreReadable s data := by
        simp [AreCheckable, titlePaths, markerPaths, Path.CanBeLookedUp, MarkersAreReadable]
      rw [listed]
      constructor
      · exact fun readable => Or.inl ⟨s, rfl, readable⟩
      · rintro (⟨_, ⟨⟩, readable⟩ | absent)
        · exact readable
        · have empty : s = "" := by simpa [Value.isPresent] using absent
          subst empty
          intro path member
          cases member
  | _ =>
      rw [untitled _ (fun _ => by simp)]
      split
      · next given => simp [AreCheckable, given]
      · next absent => simp [AreCheckable, absent]

theorem datasetPath_checkable_iff (dataset data : Value) :
    AreCheckable data (datasetPath dataset) ↔
      ∃ own, dataset = .object own ∧ Path.CanBeLookedUp (Fields.get own "binding") data := by
  cases dataset with
  | object own =>
      simp [AreCheckable, datasetPath, Value.field, Value.fields?, Except.map,
        Path.forall_givenPath_iff]
  | _ => simp [AreCheckable, datasetPath, Value.field, Value.fields?, Except.map]

theorem mapM_checkable_iff (data : Value) (datasets : List Value) :
    AreCheckable data ((datasets.mapM datasetPath).map List.flatten) ↔
      ∀ dataset ∈ datasets, AreCheckable data (datasetPath dataset) := by
  induction datasets with
  | nil => simp [AreCheckable, Except.map, pure, Except.pure]
  | cons dataset rest ih =>
      rw [List.forall_mem_cons, ← ih, List.mapM_cons]
      cases datasetPath dataset with
      | error fault => simp [AreCheckable, Except.map, bind, Except.bind]
      | ok first =>
          cases rest.mapM datasetPath with
          | error fault => simp [AreCheckable, Except.map, bind, Except.bind]
          | ok others =>
              simp [AreCheckable, Except.map, bind, Except.bind, pure, Except.pure, or_imp,
                forall_and]

theorem boundDatasets_checkable_iff (bindings : Fields) (data : Value) :
    (∃ items, boundDatasets bindings = .ok items ∧
        ∀ item ∈ items, AreCheckable data (datasetPath item)) ↔
      ∀ value, bindings.lookup "datasets" = some value →
        ∃ items, value.items? = .ok items ∧ ∀ item ∈ items,
          ∃ own, item = .object own ∧ Path.CanBeLookedUp (Fields.get own "binding") data := by
  simp only [datasetPath_checkable_iff]
  unfold boundDatasets
  cases bindings.lookup "datasets" with
  | none => simp
  | some value => simp

theorem chartPaths_checkable_iff (bindings : Fields) (data : Value) :
    AreCheckable data (chartPaths bindings) ↔ BindingsAreCheckable data bindings := by
  have parts : AreCheckable data (chartPaths bindings) ↔
      AreCheckable data (titlePaths (bindings.get "title")) ∧
        Path.CanBeLookedUp (bindings.get "primaryBinding") data ∧
        ∃ items, boundDatasets bindings = .ok items ∧
          AreCheckable data ((items.mapM datasetPath).map List.flatten) := by
    rw [chartPaths, ← Path.forall_givenPath_iff]
    cases titlePaths (bindings.get "title") with
    | error fault => simp [AreCheckable, bind, Except.bind]
    | ok title =>
        cases boundDatasets bindings with
        | error fault => simp [AreCheckable, bind, Except.bind]
        | ok items =>
            cases paths : items.mapM datasetPath with
            | error fault => simp [AreCheckable, bind, Except.bind, Except.map, paths]
            | ok datasets =>
                simp only [AreCheckable, bind, Except.bind, pure, Except.pure, Except.map, paths,
                  Except.ok.injEq, exists_eq_left', List.forall_mem_append]
                constructor
                · rintro ⟨⟨primary, title⟩, series⟩
                  exact ⟨title, primary, series⟩
                · rintro ⟨title, primary, series⟩
                  exact ⟨⟨primary, title⟩, series⟩
  simp only [mapM_checkable_iff] at parts
  rw [parts, titlePaths_checkable_iff, boundDatasets_checkable_iff]
  constructor
  · rintro ⟨title, primary, datasets⟩
    exact ⟨title, primary, datasets⟩
  · rintro ⟨title, primary, datasets⟩
    exact ⟨title, primary, datasets⟩

theorem forall_bindingPaths_iff (props : Fields) (data : Value) :
    (∀ path ∈ bindingPaths props, Path.CanBeLookedUp path data) ↔
      ((props.get "binding").isPresent = true →
        Path.IsReadable (trim (props.get "binding").plain) data) := by
  unfold bindingPaths givenPath
  by_cases given : (props.get "binding").isPresent = true
  · simp [given, Path.CanBeLookedUp]
  · simp [given]

theorem forall_textPaths_iff (props : Fields) (data : Value) :
    (∀ path ∈ textPaths props, Path.CanBeLookedUp path data) ↔
      ∀ s, props.get "text" = .text s → Marker.occursIn (.text s) = true →
        MarkersAreReadable s data := by
  unfold textPaths
  cases props.get "text" with
  | text s =>
      by_cases marked : Marker.occursIn (.text s) = true
      · simp [marked, markerPaths, Path.CanBeLookedUp, MarkersAreReadable]
      · simp [marked]
  | _ => simp [Marker.occursIn]

theorem paths_checkable_iff (component : Component) (data : Value) :
    AreCheckable data component.paths ↔ component.IsCheckable data := by
  have own : ∀ ofChart : List Value,
      (∀ path ∈ bindingPaths component.props ++ textPaths component.props ++ ofChart,
        Path.CanBeLookedUp path data) ↔
      ((component.props.get "binding").isPresent = true →
        Path.IsReadable (trim (component.props.get "binding").plain) data) ∧
      (∀ s, component.props.get "text" = .text s → Marker.occursIn (.text s) = true →
        MarkersAreReadable s data) ∧
      ∀ path ∈ ofChart, Path.CanBeLookedUp path data := by
    intro ofChart
    rw [List.forall_mem_append, List.forall_mem_append, forall_bindingPaths_iff,
      forall_textPaths_iff, and_assoc]
  have checked : component.IsCheckable data ↔
      ((component.props.get "binding").isPresent = true →
        Path.IsReadable (trim (component.props.get "binding").plain) data) ∧
      (∀ s, component.props.get "text" = .text s → Marker.occursIn (.text s) = true →
        MarkersAreReadable s data) ∧
      ∀ bindings, component.props.get "bindings" = .object bindings →
        BindingsAreCheckable data bindings :=
    ⟨fun all => ⟨all.binding, all.text, all.bindings⟩, fun all => ⟨all.1, all.2.1, all.2.2⟩⟩
  rw [checked]
  cases bound : component.props.get "bindings" with
  | object bindings =>
      have chart := chartPaths_checkable_iff bindings data
      simp only [paths, bound, Value.object.injEq, forall_eq', ← chart]
      cases chartPaths bindings with
      | error fault => simp [AreCheckable, bind, Except.bind]
      | ok ofChart =>
          simp only [AreCheckable, bind, Except.bind, pure, Except.pure, Except.ok.injEq,
            exists_eq_left']
          exact own ofChart
  | _ =>
      have nothing := own []
      simp only [List.not_mem_nil, false_implies, implies_true, and_true] at nothing
      simp only [paths, bound, AreCheckable, bind, Except.bind, pure, Except.pure, Except.ok.injEq,
        exists_eq_left', reduceCtorEq, false_implies, implies_true, and_true]
      exact nothing

end Component

theorem checkBindings_succeeds_iff (components : List Component) (data : Value) :
    Attempt.Succeeds (checkBindings components data) ↔
      ∀ component ∈ components, component.IsCheckable data := by
  have all : Attempt.Succeeds (checkBindings components data) ↔
      Attempt.Succeeds (components.mapM fun component => do
        unresolvedPaths data component.id (← component.paths)) := by
    rw [checkBindings, Attempt.succeeds_bind_iff]
    exact ⟨fun ⟨findings, made, _⟩ => ⟨findings, made⟩,
      fun ⟨findings, made⟩ => ⟨findings, made, Attempt.succeeds_pure _⟩⟩
  rw [all, Attempt.succeeds_mapM_iff]
  refine forall₂_congr fun component _ => ?_
  rw [Attempt.succeeds_bind_iff, ← Component.paths_checkable_iff, AreCheckable]
  simp only [Path.unresolvedPaths_succeeds_iff]

end ReportCompiler
