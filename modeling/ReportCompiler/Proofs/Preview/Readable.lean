import ReportCompiler.Proofs.Binding.Marker
import ReportCompiler.Proofs.Preview.Filling

/-!
Which data can be filled in. A binder fails only where a path cannot be followed; that of a chart fails also where
a dataset is no object, and where a list that starts with a labelled object goes on with something else.
-/

namespace ReportCompiler

open ReportCompiler.Widget

/-! ### Series -/

namespace Series

/-- A list that starts with a labelled object holds nothing but objects. -/
def CanBeRead (value : Value) : Prop :=
  ∀ (first : Fields) rest, value = .list (.object first :: rest) → first.has "label" = true →
    ∀ item ∈ rest, ∃ own, item = .object own

theorem itemLabel_succeeds_iff (item : Value) :
    Attempt.Succeeds (itemLabel item) ↔ ∃ own, item = .object own := by
  rw [itemLabel, Attempt.succeeds_bind_pure_iff, Value.field, Attempt.succeeds_map_iff]
  cases item <;> simp [Value.fields?]

theorem ofObjects_succeeds_iff (first : Fields) (items : List Value) :
    Attempt.Succeeds (ofObjects first items) ↔
      (first.has "label" = true → ∀ item ∈ items, ∃ own, item = .object own) := by
  unfold ofObjects
  by_cases labelled : first.has "label" = true
  · simp only [labelled, if_true, Attempt.succeeds_bind_pure_iff, Attempt.succeeds_map_iff,
      Attempt.succeeds_mapM_iff, itemLabel_succeeds_iff, true_implies]
  · simp only [labelled, Bool.false_eq_true, if_false, false_implies, iff_true]
    exact Attempt.succeeds_ok _

theorem ofValue?_succeeds_iff (value : Value) :
    Attempt.Succeeds (ofValue? value) ↔ CanBeRead value := by
  -- any other value is no list that starts with an object
  have other : (∀ (first : Fields) rest, value ≠ .list (.object first :: rest)) → CanBeRead value :=
    fun different first rest same => absurd same (different first rest)
  unfold ofValue?
  split
  · split <;> exact iff_of_true (Attempt.succeeds_ok _) (other (by simp))
  · exact iff_of_true (Attempt.succeeds_ok _) (other (by simp))
  · next first rest =>
      rw [Attempt.succeeds_map_iff, ofObjects_succeeds_iff]
      constructor
      · rintro objects _ _ same labelled
        obtain ⟨⟨rfl⟩, rfl⟩ := List.cons.inj (Value.list.inj same)
        exact fun item member => objects labelled item (List.mem_cons_of_mem _ member)
      · exact fun readable labelled => List.forall_mem_cons.mpr
          ⟨⟨first, rfl⟩, readable first rest rfl labelled⟩
  · next items _ bare =>
      refine iff_of_true (Attempt.succeeds_ok _) (other fun first rest same => ?_)
      exact bare first rest (Value.list.inj same)
  · next unlisted =>
      refine iff_of_true (Attempt.succeeds_ok _) (other fun first rest same => ?_)
      exact unlisted _ same

end Series

namespace Preview

variable (props : Fields) (data : Value)

/-! ### Widgets bound to one value -/

theorem boundValue_succeeds_iff :
    Attempt.Succeeds (boundValue props data) ↔ Path.IsReadable (bindingText props) data :=
  Path.resolve_succeeds_iff _ _

/-- The path that a text is bound to can be followed, or those of its markers where it is bound to none. -/
def TextIsReadable : Prop :=
  if hasBinding props then Path.IsReadable (bindingText props) data
  else ∀ s, props.get "text" = .text s → MarkersAreReadable s data

theorem bindText_succeeds_iff (given : data.isNull = false) :
    Attempt.Succeeds (bindText props data) ↔ TextIsReadable props data := by
  unfold bindText TextIsReadable
  split
  · rw [← boundValue_succeeds_iff]
    refine Attempt.succeeds_bind_of_forall _ _ fun value => ?_
    split <;> exact Attempt.succeeds_pure _
  · split
    · next s text =>
        simp only [text, Value.text.injEq, forall_eq']
        split
        · rw [← Marker.interpolate_succeeds_iff s data given]
          exact Attempt.succeeds_bind_pure_iff _ _
        · next plain =>
            exact iff_of_true (Attempt.succeeds_pure _)
              (markersAreReadable_of_not_occursIn s data (Bool.eq_false_iff.mpr plain))
    · next other =>
        exact iff_of_true (Attempt.succeeds_pure _) fun s text => absurd text (other s)

theorem bindTable_succeeds_iff :
    Attempt.Succeeds (bindTable props data) ↔ Path.IsReadable (bindingText props) data := by
  rw [← boundValue_succeeds_iff]
  refine Attempt.succeeds_bind_of_forall _ _ fun value => ?_
  split <;> exact Attempt.succeeds_pure _

theorem bindBulletList_succeeds_iff :
    Attempt.Succeeds (bindBulletList props data) ↔ Path.IsReadable (bindingText props) data := by
  rw [← boundValue_succeeds_iff]
  refine Attempt.succeeds_bind_of_forall _ _ fun value => ?_
  split <;> exact Attempt.succeeds_pure _

theorem bindIndicator_succeeds_iff :
    Attempt.Succeeds (bindIndicator props data) ↔ Path.IsReadable (bindingText props) data := by
  rw [← boundValue_succeeds_iff]
  refine Attempt.succeeds_bind_of_forall _ _ fun value => ?_
  split <;> exact Attempt.succeeds_pure _

theorem bindMeasure_succeeds_iff :
    Attempt.Succeeds (bindMeasure props data) ↔ Path.IsReadable (bindingText props) data := by
  rw [← boundValue_succeeds_iff]
  exact Attempt.succeeds_bind_pure_iff _ _

theorem bindDate_succeeds_iff :
    Attempt.Succeeds (bindDate props data) ↔ Path.IsReadable (bindingText props) data := by
  rw [← boundValue_succeeds_iff]
  refine Attempt.succeeds_bind_of_forall _ _ fun value => ?_
  split <;> exact Attempt.succeeds_pure _

/-! ### Charts -/

/-- A dataset that is bound has a path that can be followed, to something that can be read as a series. -/
def DatasetIsReadable (own : Fields) : Prop :=
  (own.get "binding").isPresent = true →
    Path.CanBeLookedUp (own.get "binding") data ∧
      ∀ value, Path.resolveValue (own.get "binding") data = .ok value → Series.CanBeRead value

/-- What filling data into a chart asks for. -/
structure ChartIsReadable : Prop where
  title : ∀ s, props.get "title" = .text s → MarkersAreReadable s data
  datasets : (props.get "datasets").isPresent = true → ∃ items, props.get "datasets" = .list items ∧
    ∀ item ∈ items, ∃ own, item = .object own ∧ DatasetIsReadable data own
  sole : (props.get "datasets").isPresent = false → Path.IsReadable (bindingText props) data ∧
    ∀ value, boundValue props data = .ok value → Series.CanBeRead value

theorem boundTitle_succeeds_iff (given : data.isNull = false) :
    Attempt.Succeeds (boundTitle props data) ↔
      ∀ s, props.get "title" = .text s → MarkersAreReadable s data := by
  unfold boundTitle
  split
  · next s title =>
      simp only [title, Value.text.injEq, forall_eq']
      split
      · rw [← Marker.interpolate_succeeds_iff s data given]
        exact Attempt.succeeds_bind_pure_iff _ _
      · next plain =>
          exact iff_of_true (Attempt.succeeds_ok _)
            (markersAreReadable_of_not_occursIn s data (Bool.eq_false_iff.mpr plain))
  · next other =>
      exact iff_of_true (Attempt.succeeds_ok _) fun s title => absurd title (other s)

theorem datasetSeries_succeeds_iff (own : Fields) :
    Attempt.Succeeds (datasetSeries own data) ↔ DatasetIsReadable data own := by
  unfold datasetSeries DatasetIsReadable
  simp only
  split
  · next bound =>
      rw [Attempt.succeeds_bind_iff_forall, Path.resolveValue_succeeds_iff]
      simp only [Series.ofValue?_succeeds_iff, bound, true_implies]
  · next unbound => simp [unbound]

theorem bindDataset_succeeds_iff (labels : List Value) (dataset : Value) :
    Attempt.Succeeds (bindDataset data labels dataset) ↔
      ∃ own, dataset = .object own ∧ DatasetIsReadable data own := by
  cases dataset with
  | object own =>
      simp only [bindDataset, Value.fields?, Attempt.ok_bind, Value.object.injEq, exists_eq_left']
      rw [← datasetSeries_succeeds_iff]
      refine Attempt.succeeds_bind_of_forall _ _ fun series => ?_
      split <;> exact Attempt.succeeds_pure _
  | _ => simp [bindDataset, Value.fields?, Attempt.error_bind]

theorem bindDatasets_succeeds_iff (labels items : List Value) :
    Attempt.Succeeds (bindDatasets data labels items) ↔
      ∀ item ∈ items, ∃ own, item = .object own ∧ DatasetIsReadable data own := by
  induction items generalizing labels with
  | nil => simp [bindDatasets]
  | cons dataset rest ih =>
      rw [bindDatasets, List.forall_mem_cons, ← bindDataset_succeeds_iff data labels]
      refine Attempt.succeeds_bind_iff_and _ _ _ fun bound => ?_
      exact (Attempt.succeeds_bind_pure_iff _ _).trans (ih bound.2)

-- Nothing but objects can be filled in one by one, and only a list has objects as its items.
theorem bindItems_succeeds_iff (present : (props.get "datasets").isPresent = true) :
    Attempt.Succeeds ((props.get "datasets").items? >>= bindDatasets data []) ↔
      ∃ items, props.get "datasets" = .list items ∧
        ∀ item ∈ items, ∃ own, item = .object own ∧ DatasetIsReadable data own := by
  rw [Attempt.succeeds_bind_iff]
  simp only [bindDatasets_succeeds_iff]
  constructor
  · rintro ⟨items, listed, readable⟩
    have objects : ∀ item ∈ items, ∃ own, item = .object own := fun item member =>
      (readable item member).imp fun own both => both.1
    exact ⟨items, eq_list_of_objects _ items present listed objects, readable⟩
  · rintro ⟨items, list, readable⟩
    exact ⟨items, by rw [list]; rfl, readable⟩

theorem boundSeries_succeeds_iff :
    Attempt.Succeeds (boundValue props data >>= Series.ofValue?) ↔
      Path.IsReadable (bindingText props) data ∧
        ∀ value, boundValue props data = .ok value → Series.CanBeRead value := by
  rw [Attempt.succeeds_bind_iff_forall, boundValue_succeeds_iff]
  simp only [Series.ofValue?_succeeds_iff]

theorem bindChart_succeeds_iff (given : data.isNull = false) :
    Attempt.Succeeds (bindChart props data) ↔ ChartIsReadable props data := by
  have filled := boundTitle_succeeds_iff props data given
  unfold bindChart
  by_cases present : (props.get "datasets").isPresent = true
  · simp only [present, if_true]
    have items := bindItems_succeeds_iff props data present
    rw [Attempt.succeeds_bind_iff_and _ _ _ fun titled =>
      (Attempt.succeeds_bind_congr _ _ _ fun items => Attempt.succeeds_bind_pure_iff _ _).trans items, filled]
    exact ⟨fun ⟨title, readable⟩ => ⟨title, fun _ => readable, fun absent => by simp [present] at absent⟩,
      fun readable => ⟨readable.title, readable.datasets present⟩⟩
  · have absent := Bool.eq_false_iff.mpr present
    simp only [absent, Bool.false_eq_true, if_false]
    have series := boundSeries_succeeds_iff props data
    rw [Attempt.succeeds_bind_iff_and _ _ _ fun titled =>
      (Attempt.succeeds_bind_congr _ _ _ fun value => Attempt.succeeds_bind_of_forall _ _ fun series? => by
        split <;> exact Attempt.succeeds_pure _).trans series, filled]
    exact ⟨fun ⟨title, readable⟩ => ⟨title, fun given => absurd given present, fun _ => readable⟩,
      fun readable => ⟨readable.title, readable.sole absent⟩⟩

/-! ### All widgets -/

/-- All that is looked up for a widget when data is filled in can be found. -/
def CanBeFilled : Kind → Prop
  | .text => TextIsReadable props data
  | .table | .bulletList | .indicator | .gauge | .progressBar | .dateTime =>
      Path.IsReadable (bindingText props) data
  | .chart => ChartIsReadable props data
  | _ => True

theorem bindKind_succeeds_iff (kind : Kind) (given : data.isNull = false) :
    Attempt.Succeeds (bindKind props data kind) ↔ CanBeFilled props data kind := by
  cases kind with
  | text => exact bindText_succeeds_iff props data given
  | table => exact bindTable_succeeds_iff props data
  | bulletList => exact bindBulletList_succeeds_iff props data
  | indicator => exact bindIndicator_succeeds_iff props data
  | gauge => exact bindMeasure_succeeds_iff props data
  | progressBar => exact bindMeasure_succeeds_iff props data
  | dateTime => exact bindDate_succeeds_iff props data
  | chart => exact (Attempt.succeeds_map_iff _ _).trans (bindChart_succeeds_iff props data given)
  | _ => exact iff_of_true (Attempt.succeeds_ok _) trivial

end Preview

end ReportCompiler
