import ReportCompiler.Preview.Binding
import ReportCompiler.Proofs.Attempt
import ReportCompiler.Proofs.Value.Fields

/-!
Which settings sample data can fill in. All other fields of a widget's settings come out of a preview the
way they went in.
-/

namespace ReportCompiler

theorem Fields.mem_of_mem_set (fields : Fields) (key name : String) (new value : Value)
    (different : name ≠ key) (member : (name, value) ∈ fields.set key new) :
    (name, value) ∈ fields := by
  unfold Fields.set at member
  split at member
  · obtain ⟨field, inside, same⟩ := List.mem_map.mp member
    split at same
    · exact absurd (congrArg Prod.fst same).symm different
    · exact same ▸ inside
  · rcases List.mem_append.mp member with inside | added
    · exact inside
    · exact absurd (congrArg Prod.fst (List.mem_singleton.mp added)) different

namespace Preview

/-- The settings that sample data is put into. -/
def filledNames : List String :=
  ["text", "data", "items", "status", "value", "title", "datasets", "dataPoints", "labels",
    Widget.hiddenByCondition]

/-- Settings with values put into some of the fields for them, one after the other. -/
inductive Fills (props : Fields) : Fields → Prop where
  | nothing : Fills props props
  | set (filled : Fields) (key : String) (value : Value) (before : Fills props filled)
      (known : key ∈ filledNames) : Fills props (filled.set key value)

theorem Fills.without_eq (props filled : Fields) (fills : Fills props filled) :
    Fields.without filledNames filled = Fields.without filledNames props := by
  induction fills with
  | nothing => rfl
  | set filled key value before known ih => rw [Fields.without_set _ filled key value known, ih]

theorem Fills.nodup (props filled : Fields) (fills : Fills props filled)
    (distinct : (props.map Prod.fst).Nodup) : (filled.map Prod.fst).Nodup := by
  induction fills with
  | nothing => exact distinct
  | set filled key value before known ih => exact Fields.nodup_set filled key value ih

/-- The field has not been touched. -/
def Keeps (name : String) (props filled : Fields) : Prop :=
  ∀ value, (name, value) ∈ filled → (name, value) ∈ props

theorem Fills.keeps (props filled : Fields) (fills : Fills props filled) (name : String)
    (other : name ∉ filledNames) : Keeps name props filled := by
  induction fills with
  | nothing => exact fun _ member => member
  | set filled key value before known ih =>
      intro old member
      have different : name ≠ key := fun same => other (same ▸ known)
      exact ih old (Fields.mem_of_mem_set filled key name value old different member)

theorem bound_of_null (kind : Widget.Kind) (props : Fields) (data : Value)
    (absent : data.isNull = true) : bound kind props data = .ok props := by
  simp only [bound, bind, absent, if_true]
  rfl

section Binders

variable (props : Fields) (data : Value)

/-- One field is set, and that is all. -/
theorem Fills.one (key : String) (value : Value) (known : key ∈ filledNames) :
    Fills props (props.set key value) :=
  .set props key value .nothing known

theorem bindText_fills (change : Change) (filled : bindText props data = .ok change) :
    Fills props (change.getD props) := by
  unfold bindText at filled
  split at filled
  · obtain ⟨value, _, made⟩ := (Attempt.bind_eq_ok_iff _ _ _).mp filled
    split at made <;> obtain rfl := (Attempt.pure_eq_ok_iff _ _).mp made
    · exact .nothing
    · exact .one props "text" _ (by decide)
  · split at filled
    · split at filled
      · obtain ⟨text, _, made⟩ := (Attempt.bind_eq_ok_iff _ _ _).mp filled
        obtain rfl := (Attempt.pure_eq_ok_iff _ _).mp made
        exact .one props "text" _ (by decide)
      · obtain rfl := (Attempt.pure_eq_ok_iff _ _).mp filled
        exact .nothing
    · obtain rfl := (Attempt.pure_eq_ok_iff _ _).mp filled
      exact .nothing

theorem bindTable_fills (change : Change) (filled : bindTable props data = .ok change) :
    Fills props (change.getD props) := by
  obtain ⟨value, _, made⟩ := (Attempt.bind_eq_ok_iff _ _ _).mp filled
  split at made <;> obtain rfl := (Attempt.pure_eq_ok_iff _ _).mp made
  · exact .one props "data" _ (by decide)
  · exact .nothing

theorem bindBulletList_fills (change : Change) (filled : bindBulletList props data = .ok change) :
    Fills props (change.getD props) := by
  obtain ⟨value, _, made⟩ := (Attempt.bind_eq_ok_iff _ _ _).mp filled
  split at made <;> obtain rfl := (Attempt.pure_eq_ok_iff _ _).mp made
  · exact .nothing
  · exact .one props "items" _ (by decide)
  · exact .one props "items" _ (by decide)

theorem bindIndicator_fills (change : Change) (filled : bindIndicator props data = .ok change) :
    Fills props (change.getD props) := by
  obtain ⟨value, _, made⟩ := (Attempt.bind_eq_ok_iff _ _ _).mp filled
  split at made <;> obtain rfl := (Attempt.pure_eq_ok_iff _ _).mp made
  · exact .nothing
  · exact .one props "status" _ (by decide)

theorem bindMeasure_fills (change : Change) (filled : bindMeasure props data = .ok change) :
    Fills props (change.getD props) := by
  obtain ⟨value, _, made⟩ := (Attempt.bind_eq_ok_iff _ _ _).mp filled
  obtain rfl := (Attempt.pure_eq_ok_iff _ _).mp made
  cases value.number? with
  | none => exact .nothing
  | some n => exact .one props "value" _ (by decide)

theorem bindDate_fills (change : Change) (filled : bindDate props data = .ok change) :
    Fills props (change.getD props) := by
  obtain ⟨value, _, made⟩ := (Attempt.bind_eq_ok_iff _ _ _).mp filled
  split at made <;> obtain rfl := (Attempt.pure_eq_ok_iff _ _).mp made
  · exact .nothing
  · exact .one props "value" _ (by decide)

/-! ### Charts -/

/-- The title is filled in where it has markers. -/
theorem boundTitle_cases (titled : Fields) (made : boundTitle props data = .ok titled) :
    (titled = props ∧ ∀ s, props.get "title" = .text s → Marker.occursIn (.text s) = false) ∨
      ∃ s text, props.get "title" = .text s ∧ Marker.occursIn (.text s) = true ∧
        Marker.interpolate s data = .ok text ∧ titled = props.set "title" (.text text) := by
  unfold boundTitle at made
  cases title : props.get "title" with
  | text s =>
      rw [title] at made
      simp only at made
      split at made
      · next marked =>
          obtain ⟨text, filled, whole⟩ := (Attempt.bind_eq_ok_iff _ _ _).mp made
          exact Or.inr ⟨s, text, rfl, marked, filled, ((Attempt.pure_eq_ok_iff _ _).mp whole).symm⟩
      · next plain =>
          refine Or.inl ⟨(Except.ok.inj made).symm, fun other same => ?_⟩
          rw [← Value.text.inj same]
          exact Bool.eq_false_iff.mpr plain
  | _ =>
      rw [title] at made
      exact Or.inl ⟨(Except.ok.inj made).symm, fun s impossible => by cases impossible⟩

/-- A dataset is an object, and gets points where it is bound to a series. -/
theorem bindDataset_cases (labels after : List Value) (dataset bound : Value)
    (made : bindDataset data labels dataset = .ok (bound, after)) :
    ∃ own : Fields, dataset = .object own ∧
      (datasetSeries own data = .ok none ∧ bound = dataset ∧ after = labels ∨
        ∃ series, datasetSeries own data = .ok (some series) ∧
          bound = .object (own.set "dataPoints" (.text series.pointsText)) ∧
          after = laterLabels labels series) := by
  obtain ⟨own, object, rest⟩ := (Attempt.bind_eq_ok_iff _ _ _).mp made
  obtain ⟨series, found, whole⟩ := (Attempt.bind_eq_ok_iff _ _ _).mp rest
  have same : dataset = .object own := by
    cases dataset with
    | object fields => rw [Except.ok.inj object]
    | _ => cases object
  refine ⟨own, same, ?_⟩
  cases series with
  | none =>
      obtain ⟨rfl, rfl⟩ := Prod.mk.inj ((Attempt.pure_eq_ok_iff _ _).mp whole)
      exact Or.inl ⟨found, rfl, rfl⟩
  | some series =>
      obtain ⟨rfl, rfl⟩ := Prod.mk.inj ((Attempt.pure_eq_ok_iff _ _).mp whole)
      exact Or.inr ⟨series, found, rfl, rfl⟩

theorem bindDatasets_cons (labels after : List Value) (dataset : Value) (rest bound : List Value)
    (made : bindDatasets data labels (dataset :: rest) = .ok (bound, after)) :
    ∃ first between others, bindDataset data labels dataset = .ok (first, between) ∧
      bindDatasets data between rest = .ok (others, after) ∧ bound = first :: others := by
  obtain ⟨⟨first, between⟩, one, later⟩ := (Attempt.bind_eq_ok_iff _ _ _).mp made
  obtain ⟨⟨others, final⟩, several, whole⟩ := (Attempt.bind_eq_ok_iff _ _ _).mp later
  obtain ⟨rfl, rfl⟩ := Prod.mk.inj ((Attempt.pure_eq_ok_iff _ _).mp whole)
  exact ⟨first, between, others, one, several, rfl⟩

theorem objects_of_bindDatasets (labels after items bound : List Value)
    (made : bindDatasets data labels items = .ok (bound, after)) :
    ∀ item ∈ items, ∃ own, item = .object own := by
  induction items generalizing labels bound with
  | nil => simp
  | cons dataset rest ih =>
      obtain ⟨first, between, others, one, several, _⟩ :=
        bindDatasets_cons data labels after dataset rest bound made
      obtain ⟨own, object, _⟩ := bindDataset_cases data labels between dataset first one
      exact List.forall_mem_cons.mpr ⟨⟨own, object⟩, ih between others several⟩

/-- The items of a text or an object are texts, so that only a list can have objects as items. -/
theorem eq_list_of_objects (value : Value) (items : List Value) (present : value.isPresent = true)
    (listed : value.items? = .ok items) (objects : ∀ item ∈ items, ∃ own, item = .object own) :
    value = .list items := by
  cases value with
  | list own => rw [Except.ok.inj listed]
  | object fields =>
      obtain rfl := Except.ok.inj listed
      cases fields with
      | nil => cases present
      | cons field rest =>
          obtain ⟨own, impossible⟩ := objects _ List.mem_cons_self
          cases impossible
  | text s =>
      obtain rfl := Except.ok.inj listed
      cases chars : s.toList with
      | nil =>
          have empty : s = "" := String.toList_eq_nil_iff.mp chars
          rw [empty] at present
          cases present
      | cons c rest =>
          rw [chars] at objects
          obtain ⟨own, impossible⟩ := objects _ List.mem_cons_self
          cases impossible
  | _ => cases listed

/-- A chart has its datasets bound where it has any, and else gets the points of its own series. -/
theorem bindChart_cases (chart : Fields) (made : bindChart props data = .ok chart) :
    ∃ titled, boundTitle props data = .ok titled ∧
      ((∃ items bound labels, props.get "datasets" = .list items ∧ items ≠ [] ∧
          bindDatasets data [] items = .ok (bound, labels) ∧
          chart = withLabels labels (titled.set "datasets" (.list bound))) ∨
        (props.get "datasets").isPresent = false ∧
          ∃ series, (boundValue props data >>= Series.ofValue?) = .ok series ∧
            chart = match series with
              | some series =>
                  withLabels (laterLabels [] series)
                    (titled.set "dataPoints" (.text series.pointsText))
              | none => titled) := by
  obtain ⟨titled, title, rest⟩ := (Attempt.bind_eq_ok_iff _ _ _).mp made
  refine ⟨titled, title, ?_⟩
  simp only at rest
  split at rest
  · next present =>
      obtain ⟨items, listed, rest⟩ := (Attempt.bind_eq_ok_iff _ _ _).mp rest
      obtain ⟨⟨bound, labels⟩, several, whole⟩ := (Attempt.bind_eq_ok_iff _ _ _).mp rest
      have list := eq_list_of_objects (props.get "datasets") items present listed
        (objects_of_bindDatasets data [] labels items bound several)
      refine Or.inl ⟨items, bound, labels, list, ?_, several,
        ((Attempt.pure_eq_ok_iff _ _).mp whole).symm⟩
      rintro rfl
      rw [list] at present
      cases present
  · next absent =>
      obtain ⟨value, found, rest⟩ := (Attempt.bind_eq_ok_iff _ _ _).mp rest
      obtain ⟨series, read, whole⟩ := (Attempt.bind_eq_ok_iff _ _ _).mp rest
      refine Or.inr ⟨Bool.eq_false_iff.mpr absent, series,
        (Attempt.bind_eq_ok_iff _ _ _).mpr ⟨value, found, read⟩, ?_⟩
      cases series <;> exact ((Attempt.pure_eq_ok_iff _ _).mp whole).symm

theorem boundTitle_fills (titled : Fields) (filled : boundTitle props data = .ok titled) :
    Fills props titled := by
  rcases boundTitle_cases props data titled filled with ⟨rfl, _⟩ | ⟨s, text, _, _, _, rfl⟩
  · exact .nothing
  · exact .one props "title" _ (by decide)

theorem withLabels_fills (labels : List Value) (filled : Fields) (fills : Fills props filled) :
    Fills props (withLabels labels filled) := by
  unfold withLabels
  split
  · exact fills
  · exact fills.set filled "labels" _ (by decide)

theorem bindChart_fills (chart : Fields) (filled : bindChart props data = .ok chart) :
    Fills props chart := by
  obtain ⟨titled, title, made⟩ := bindChart_cases props data chart filled
  have fills := boundTitle_fills props data titled title
  rcases made with ⟨items, bound, labels, _, _, _, rfl⟩ | ⟨_, series, _, rfl⟩
  · exact withLabels_fills props labels _ (fills.set titled "datasets" _ (by decide))
  · cases series with
    | none => exact fills
    | some series => exact withLabels_fills props _ _ (fills.set titled "dataPoints" _ (by decide))

/-! ### All widgets -/

theorem bindKind_fills (kind : Widget.Kind) (change : Change)
    (filled : bindKind props data kind = .ok change) : Fills props (change.getD props) := by
  cases kind with
  | text => exact bindText_fills props data change filled
  | table => exact bindTable_fills props data change filled
  | bulletList => exact bindBulletList_fills props data change filled
  | indicator => exact bindIndicator_fills props data change filled
  | gauge => exact bindMeasure_fills props data change filled
  | progressBar => exact bindMeasure_fills props data change filled
  | dateTime => exact bindDate_fills props data change filled
  | chart =>
      obtain ⟨chart, bound, rfl⟩ := (Attempt.map_eq_ok_iff _ _ _).mp filled
      exact bindChart_fills props data chart bound
  | _ =>
      obtain rfl := Except.ok.inj filled
      exact .nothing

/-- What binding comes to where there is data: the widget's own change, and the mark of a condition that
does not hold. -/
theorem bound_cases (kind : Widget.Kind) (filled : Fields) (given : data.isNull = false)
    (bound : Preview.bound kind props data = .ok filled) :
    ∃ change refused, bindKind props data kind = .ok change ∧ isRefused props data = .ok refused ∧
      filled = if refused then (change.getD props).set Widget.hiddenByCondition (.bool true)
        else change.getD props := by
  obtain ⟨change, bind, made⟩ := (Attempt.bind_eq_ok_iff _ _ _).mp bound
  obtain rfl := (Attempt.pure_eq_ok_iff _ _).mp made
  unfold Preview.bind at bind
  rw [given, if_neg Bool.false_ne_true] at bind
  obtain ⟨own, ofKind, rest⟩ := (Attempt.bind_eq_ok_iff _ _ _).mp bind
  obtain ⟨refused, condition, made⟩ := (Attempt.bind_eq_ok_iff _ _ _).mp rest
  refine ⟨own, refused, ofKind, condition, ?_⟩
  cases refused with
  | true => rw [← (Attempt.pure_eq_ok_iff _ _).mp made]; rfl
  | false => rw [← (Attempt.pure_eq_ok_iff _ _).mp made]; rfl

theorem bound_of_change (kind : Widget.Kind) (change : Change) (refused : Bool)
    (given : data.isNull = false) (ofKind : bindKind props data kind = .ok change)
    (condition : isRefused props data = .ok refused) :
    Preview.bound kind props data = .ok
      (if refused then (change.getD props).set Widget.hiddenByCondition (.bool true)
        else change.getD props) := by
  rw [Preview.bound, Preview.bind, given, if_neg Bool.false_ne_true, ofKind, Attempt.ok_bind, condition]
  cases refused <;> rfl

theorem bound_fills (kind : Widget.Kind) (filled : Fields)
    (bound : Preview.bound kind props data = .ok filled) : Fills props filled := by
  by_cases absent : data.isNull = true
  · rw [bound_of_null kind props data absent] at bound
    obtain rfl := Except.ok.inj bound
    exact .nothing
  · obtain ⟨change, refused, ofKind, _, rfl⟩ :=
      bound_cases props data kind filled (by simpa using absent) bound
    have fills := bindKind_fills props data kind change ofKind
    split
    · exact fills.set _ _ _ (by decide)
    · exact fills

end Binders

theorem bound_keeps (name : String) (other : name ∉ filledNames) (props : Fields) (data : Value)
    (kind : Widget.Kind) (filled : Fields) (bound : Preview.bound kind props data = .ok filled) :
    Keeps name props filled :=
  (bound_fills props data kind filled bound).keeps props filled name other

end Preview

end ReportCompiler
