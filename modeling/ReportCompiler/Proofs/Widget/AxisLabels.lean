import ReportCompiler.Proofs.Preview.Plotting
import ReportCompiler.Proofs.Widget.Drawable

/-!
The labels along the axis of a chart. Where none are given they are numbered, one for each point by the count of
the settings that the labels look at. The first dataset looks at settings of its own, so the two agree just when
both see the same points, or as many.
-/

namespace ReportCompiler

theorem Value.writtenLabels_of_absent (value : Value) (absent : value.isPresent = false) :
    value.writtenLabels = [] := by
  cases value with
  | list items =>
      obtain rfl : items = [] := by simpa [isPresent] using absent
      rfl
  | _ => simp [writtenLabels, absent]

theorem Value.length_labels_of_absent (value : Value) (absent : value.isPresent = false) (count : Nat) :
    (value.labels count).length = count := by
  rw [labels, writtenLabels_of_absent value absent]
  simp [placeholderLabels]

theorem Value.orElse_of_present (value fallback : Value) (present : value.isPresent = true) :
    value.orElse fallback = value := by
  rw [orElse, if_pos present]

theorem Value.orElse_of_absent (value fallback : Value) (absent : value.isPresent = false) :
    value.orElse fallback = fallback := by
  rw [orElse, absent, if_neg Bool.false_ne_true]

-- Of the values that do not count as given only the zeros spell a number.
theorem Value.length_points_of_absent (value : Value) (absent : value.isPresent = false) :
    value.points.length ≤ 1 := by
  cases value with
  | null => decide
  | bool b =>
      obtain rfl : b = false := absent
      decide +kernel
  | number n =>
      cases n with
      | int n =>
          obtain rfl : n = 0 := by simpa [isPresent, Number.isZero] using absent
          decide +kernel
      | double x =>
          cases x with
          | finite negative mantissa exponent =>
              obtain rfl : mantissa = 0 := by simpa [isPresent, Number.isZero, Double.isZero] using absent
              cases negative
              · exact (by decide +kernel : (text "0.0").points.length ≤ 1)
              · exact (by decide +kernel : (text "-0.0").points.length ≤ 1)
          | _ => cases absent
  | text s =>
      obtain rfl : s = "" := by simpa [isPresent] using absent
      decide +kernel
  | list items =>
      obtain rfl : items = [] := by simpa [isPresent] using absent
      decide
  | object fields =>
      obtain rfl : fields = [] := by simpa [isPresent] using absent
      decide +kernel
  | _ => cases absent

namespace Widget.Chart

/-- The settings of the first dataset, where there is one, are found by the labels and by the datasets alike. -/
theorem firstDataset?_cases (props : Fields) (first? : Option Fields) (found : firstDataset? props = .ok first?) :
    (first? = none ∧ (props.get "datasets").isPresent = false) ∨
      ∃ own rest, first? = some own ∧ props.get "datasets" = .list (.object own :: rest) := by
  unfold firstDataset? at found
  split at found
  · next none_ => exact Or.inl ⟨(Except.ok.inj found).symm, by rw [none_]; rfl⟩
  · next first rest list =>
      obtain ⟨own, object, rfl⟩ := (Attempt.map_eq_ok_iff _ _ _).mp found
      cases first with
      | object fields =>
          obtain rfl := Except.ok.inj object
          exact Or.inr ⟨fields, rest, rfl, list⟩
      | _ => cases object
  · next none_ => exact Or.inl ⟨(Except.ok.inj found).symm, by rw [none_]; rfl⟩
  · cases found
  · next none_ => exact Or.inl ⟨(Except.ok.inj found).symm, by rw [none_]; rfl⟩
  · cases found
  · split at found
    · cases found
    · next absent => exact Or.inl ⟨(Except.ok.inj found).symm, Bool.eq_false_iff.mpr absent⟩

/-- The labels of an entry are those of the chart. -/
theorem component_labels (id : String) (props : Fields) (entry : Component)
    (made : component id props = .ok entry) :
    ∃ shown, labels props = .ok shown ∧ entry.props.get "labels" = .list (shown.map .text) := by
  obtain ⟨shown, own, rest⟩ := (Attempt.bind_eq_ok_iff _ _ _).mp made
  obtain ⟨built, _, rest⟩ := (Attempt.bind_eq_ok_iff _ _ _).mp rest
  obtain ⟨bound, _, whole⟩ := (Attempt.bind_eq_ok_iff _ _ _).mp rest
  refine ⟨shown, own, ?_⟩
  rw [← (Attempt.pure_eq_ok_iff _ _).mp whole, get_withCondition _ _ _ (by decide)]
  rfl

/-- Labels that are not given are as many as the points that the labels look at. -/
theorem length_labels (props : Fields) (shown : List String) (unlabelled : (props.get "labels").isPresent = false)
    (made : labels props = .ok shown) :
    ∃ first?, firstDataset? props = .ok first? ∧ shown.length =
      ((Value.ofOption (first?.map fun own => own.get "dataPoints")).orElse
        (props.get "dataPoints")).points.length := by
  obtain ⟨points, led, whole⟩ := (Attempt.bind_eq_ok_iff _ _ _).mp made
  obtain ⟨first?, found, same⟩ := (Attempt.bind_eq_ok_iff _ _ _).mp led
  rw [← (Attempt.pure_eq_ok_iff _ _).mp whole, Value.length_labels_of_absent _ unlabelled,
    ← (Attempt.pure_eq_ok_iff _ _).mp same]
  exact ⟨first?, found, rfl⟩

/-- The first dataset of a chart has the points of the first that is given. -/
theorem builtDatasets_of_list (props own : Fields) (rest built : List Value)
    (list : props.get "datasets" = .list (.object own :: rest)) (made : builtDatasets props = .ok built) :
    ∃ first others, built = first :: others ∧ HoldsPoints first (own.get "dataPoints").points := by
  have listed : datasets props = .ok (.object own :: rest) := Preview.datasets_of_list props _ list
  rw [builtDatasets, listed, Attempt.ok_bind] at made
  have each := (Attempt.mapM_eq_ok_iff _ _ _).mp made
  rw [List.zipIdx_cons, List.forall₂_cons_left_iff] at each
  obtain ⟨first, others, one, _, rfl⟩ := each
  exact ⟨first, others, rfl, dataset_holdsPoints props own 0 first one⟩

theorem builtDatasets_of_absent (props : Fields) (built : List Value)
    (absent : (props.get "datasets").isPresent = false) (made : builtDatasets props = .ok built) :
    built = [soleDataset props] := by
  rw [builtDatasets, datasets, absent] at made
  exact (Except.ok.inj made).symm

/-- Where there are datasets, the first has points of its own, or as many as the chart itself. Where there are
none, the chart has points. -/
def CountsPlotted (props : Fields) : Prop :=
  match props.get "datasets" with
  | .list (.object own :: _) =>
      (Fields.get own "dataPoints").isPresent = true ∨
        (props.get "dataPoints").points.length = (Fields.get own "dataPoints").points.length
  | _ => (props.get "dataPoints").isPresent = true

theorem countsPlotted_of_absent (props : Fields) (absent : (props.get "datasets").isPresent = false) :
    CountsPlotted props ↔ (props.get "dataPoints").isPresent = true := by
  unfold CountsPlotted
  split
  · next own rest list =>
      rw [list] at absent
      cases absent
  · rfl

theorem countsPlotted_of_list (props own : Fields) (rest : List Value)
    (list : props.get "datasets" = .list (.object own :: rest)) :
    CountsPlotted props ↔ (own.get "dataPoints").isPresent = true ∨
      (props.get "dataPoints").points.length = (own.get "dataPoints").points.length := by
  rw [CountsPlotted, list]

/-- Labels that are not given are as many as the points of the first dataset, just when both are counted in
the same points or the two happen to be as many. -/
theorem component_labels_iff (id : String) (props : Fields) (entry : Component)
    (unlabelled : (props.get "labels").isPresent = false) (made : component id props = .ok entry) :
    ∃ shown first others points, entry.props.get "labels" = .list shown ∧
      entry.props.get "datasets" = .list (first :: others) ∧ HoldsPoints first points ∧
      (shown.length = points.length ↔ CountsPlotted props) := by
  obtain ⟨shown, written, labelled⟩ := component_labels id props entry made
  obtain ⟨built, datasets, entered⟩ := component_datasets id props entry made
  obtain ⟨first?, found, count⟩ := length_labels props shown unlabelled written
  have entries : (shown.map Value.text).length = shown.length := List.length_map Value.text
  rw [← entries] at count
  rcases firstDataset?_cases props first? found with ⟨rfl, absent⟩ | ⟨own, rest, rfl, list⟩
  · obtain rfl := builtDatasets_of_absent props built absent datasets
    refine ⟨_, _, [], _, labelled, entered, soleDataset_holdsPoints props, ?_⟩
    rw [count, countsPlotted_of_absent props absent, Option.map_none, Value.ofOption,
      Value.orElse_of_absent .null _ rfl]
    by_cases present : (props.get "dataPoints").isPresent = true
    · rw [Value.orElse_of_present _ _ present]
      exact iff_of_true rfl present
    · -- The placeholder has five points, and what is not given has one at most.
      have absent := Bool.eq_false_iff.mpr present
      have few := (props.get "dataPoints").length_points_of_absent absent
      have placeholder : (Value.text defaultPoints).points.length = 5 := by decide +kernel
      rw [Value.orElse_of_absent _ _ absent, placeholder]
      exact iff_of_false (by omega) present
  · obtain ⟨first, others, rfl, holds⟩ := builtDatasets_of_list props own rest built list datasets
    refine ⟨_, first, others, _, labelled, entered, holds, ?_⟩
    rw [count, countsPlotted_of_list props own rest list, Option.map_some, Value.ofOption]
    by_cases present : (own.get "dataPoints").isPresent = true
    · rw [Value.orElse_of_present _ _ present]
      exact iff_of_true rfl (Or.inl present)
    · rw [Value.orElse_of_absent _ _ (Bool.eq_false_iff.mpr present), or_iff_right present]

/-- Two datasets, each with points of its own. -/
def stackedChart : Fields :=
  resolve defaults [("datasets", .list [.object [("dataPoints", .text "3, x, 4")],
    .object [("dataPoints", .list [.int 1])]])]

theorem component_labels_stacked :
    (stackedChart.get "labels").isPresent = false ∧ CountsPlotted stackedChart ∧
      ∃ entry shown first others points, component "c" stackedChart = .ok entry ∧
        entry.props.get "labels" = .list shown ∧ entry.props.get "datasets" = .list (first :: others) ∧
        HoldsPoints first points ∧ shown.length = points.length := by
  have unlabelled : (stackedChart.get "labels").isPresent = false := by decide
  have counted : CountsPlotted stackedChart := Or.inl (by decide)
  obtain ⟨entry, made⟩ : ∃ entry, component "c" stackedChart = .ok entry := ⟨_, rfl⟩
  obtain ⟨shown, first, others, points, labelled, entered, holds, equal⟩ :=
    component_labels_iff "c" stackedChart entry unlabelled made
  exact ⟨unlabelled, counted, entry, shown, first, others, points, made, labelled, entered, holds,
    equal.mpr counted⟩

/-- A chart whose points are given as an empty text. -/
def emptiedChart : Fields := resolve defaults [("dataPoints", .text "")]

/-- The placeholder has points, and the labels do not count them. -/
theorem component_labels_emptied :
    (emptiedChart.get "labels").isPresent = false ∧
      ∃ entry dataset, component "c" emptiedChart = .ok entry ∧ entry.props.get "labels" = .list [] ∧
        entry.props.get "datasets" = .list [dataset] ∧
        HoldsPoints dataset [.int 65, .int 59, .int 80, .int 81, .int 56] := by
  have placeholder := soleDataset_holdsPoints emptiedChart
  have points : ((emptiedChart.get "dataPoints").orElse (.text defaultPoints)).points =
      [.int 65, .int 59, .int 80, .int 81, .int 56] := by decide +kernel
  rw [points] at placeholder
  exact ⟨by decide, _, soleDataset emptiedChart, rfl, rfl, rfl, placeholder⟩

end Widget.Chart

end ReportCompiler
