import ReportCompiler.Proofs.Compile.ChartPaths
import ReportCompiler.Proofs.Number.Reading
import ReportCompiler.Proofs.Preview.Reads

/-!
The points that a chart in a preview plots. A series is written into the settings as text and read out of
them again, so that a dataset plots the series it is bound to just when every number of the series has a
double, and when there is a number at all where the chart has no other dataset.
-/

namespace ReportCompiler

open ReportCompiler.Text ReportCompiler.Widget

theorem forall₂_filterMap_iff {α β : Type} (R : β → α → Prop) (f : α → Option β) (xs : List α) :
    List.Forall₂ R (xs.filterMap f) xs ↔ ∀ x ∈ xs, ∃ y, f x = some y ∧ R y x := by
  constructor
  · intro related
    have all := List.filterMap_length_eq_length.mp related.length_eq
    induction xs with
    | nil => simp
    | cons x rest ih =>
        obtain ⟨head, later⟩ := List.forall_mem_cons.mp all
        obtain ⟨y, image⟩ := Option.isSome_iff_exists.mp head
        rw [List.filterMap_cons_some image, List.forall₂_cons] at related
        exact List.forall_mem_cons.mpr ⟨⟨y, image, related.1⟩, ih related.2 later⟩
  · intro each
    induction xs with
    | nil => exact .nil
    | cons x rest ih =>
        obtain ⟨⟨y, image, related⟩, later⟩ := List.forall_mem_cons.mp each
        rw [List.filterMap_cons_some image]
        exact .cons related (ih later)

theorem forall₂_through {α β γ : Type} {R : α → β → Prop} {S : β → γ → Prop} {xs : List α} {ys : List β}
    {zs : List γ} (first : List.Forall₂ R xs ys) (second : List.Forall₂ S ys zs) :
    List.Forall₂ (fun x z => ∃ y, R x y ∧ S y z) xs zs := by
  induction first generalizing zs with
  | nil =>
      cases second
      exact .nil
  | cons related _ ih =>
      cases second with
      | cons onward rest => exact .cons ⟨_, related, onward⟩ (ih rest)

/-! ### Points as text -/

theorem Number.comma_not_mem_text (n : Number) : ',' ∉ n.text.toList := by
  intro inside
  have numeral := areNumerals_text n ',' inside
  cases numeral

namespace Series

/-- The points of a series, written into a setting and read out of it again. -/
theorem points_pointsText (series : Series) :
    (Value.text series.pointsText).points =
      series.points.filterMap fun n => Number.ofLeading? n.text := by
  have pieces : (Value.text series.pointsText).points =
      Value.pointsOfItems ((split ',' series.pointsText).map Value.text) := rfl
  rw [pieces, pointsText, Value.pointsOfItems]
  cases series.points with
  | nil => rfl
  | cons first rest =>
      have absent : ∀ part ∈ (first :: rest).map Number.text, ',' ∉ part.toList := by
        rw [List.forall_mem_map]
        exact fun n _ => n.comma_not_mem_text
      rw [List.map_cons] at absent ⊢
      rw [show ", " = String.ofList [',', ' '] from rfl, split_join ',' [' '] _ _ (by decide) absent]
      -- each point but the first has kept a blank in front
      have blank : ∀ n : Number, Number.ofLeading? (String.ofList ([' '] ++ n.text.toList)) =
          Number.ofLeading? n.text := by
        intro n
        rw [List.singleton_append, Number.ofLeading?_blank ' ' (by decide), String.ofList_toList]
      simp only [List.map_cons, List.map_map, List.filterMap_cons, List.filterMap_map, Function.comp_def,
        Value.number?, blank]

/-- Every number of the series is read back just when each has a double. -/
theorem forall₂_points_iff (series : Series) (proper : ∀ n ∈ series.points, n.IsProper) :
    List.Forall₂ (fun point n => Number.same point n = true) (Value.text series.pointsText).points
      series.points ↔ ∀ n ∈ series.points, n.HasDouble := by
  rw [points_pointsText, forall₂_filterMap_iff]
  exact forall₂_congr fun n member => n.ofLeading?_text_iff (proper n member)

theorem isPresent_pointsText (series : Series) :
    (Value.text series.pointsText).isPresent = true ↔ series.points ≠ [] := by
  rw [Value.isPresent, bne_iff_ne, pointsText]
  cases series.points with
  | nil => simp [join]
  | cons first rest =>
      refine iff_of_true (fun empty => first.text_ne_empty ?_) (List.cons_ne_nil _ _)
      have chars := congrArg String.toList empty
      rw [List.map_cons, join, String.toList_intercalate, List.map_cons] at chars
      refine String.toList_eq_nil_iff.mp ?_
      cases rest with
      | nil => simpa using chars
      | cons second others =>
          rw [List.map_cons, List.map_cons, List.intercalate_cons_cons, List.append_assoc] at chars
          exact (List.append_eq_nil_iff.mp chars).1

theorem all_itemPoint (leaf : Value → Prop) (nothing : leaf .null) (item : Value) (all : item.All leaf) :
    (itemPoint item).All leaf := by
  cases item with
  | object fields => exact Fields.all_get leaf fields "value" nothing ((Value.all_object leaf fields).mp all)
  | _ => exact all

theorem points_ofObjects (first : Fields) (items : List Value) (series : Series)
    (made : ofObjects first items = .ok series) :
    series.points = Value.pointsOfItems (items.map itemPoint) := by
  unfold ofObjects at made
  simp only [Attempt.bind_ite] at made
  split at made
  · obtain ⟨labels, _, whole⟩ := (Attempt.bind_eq_ok_iff _ _ _).mp made
    rw [← (Attempt.pure_eq_ok_iff _ _).mp whole]
  · rw [← Except.ok.inj made]

/-- The points of a series are the numbers in some values, and nothing stands in those that does not stand in
the value of the series. -/
theorem exists_items (value : Value) (series : Series) (read : ofValue? value = .ok (some series))
    (leaf : Value → Prop) (nothing : leaf .null) (all : value.All leaf) :
    ∃ items, series.points = Value.pointsOfItems items ∧ ∀ item ∈ items, item.All leaf := by
  unfold ofValue? at read
  split at read
  · next fields =>
      rw [Value.all_object] at all
      have field := Fields.all_get leaf fields "data" nothing all
      split at read
      · next items data =>
          rw [← Option.some.inj (Except.ok.inj read)]
          rw [data, Value.all_list] at field
          exact ⟨items, rfl, field⟩
      · cases read
  · cases read
  · next first rest =>
      obtain ⟨made, objects, same⟩ := (Attempt.map_eq_ok_iff _ _ _).mp read
      rw [← Option.some.inj same]
      rw [Value.all_list] at all
      refine ⟨_, points_ofObjects first _ made objects, List.forall_mem_map.mpr fun item member => ?_⟩
      exact all_itemPoint leaf nothing item (all item member)
  · next items _ _ =>
      rw [← Option.some.inj (Except.ok.inj read)]
      exact ⟨items, rfl, (Value.all_list leaf items).mp all⟩
  · cases read

end Series

/-- A number as computers have it, or anything else. -/
def Value.IsProper : Value → Prop
  | number n => n.IsProper
  | _ => True

theorem Number.isProper_ofLeading? (text : String) (n : Number) (read : ofLeading? text = some n) :
    n.IsProper := by
  obtain ⟨parts, _, same⟩ := Option.map_eq_some_iff.mp read
  have double : (parts.toDouble (Reader.takeSign (trimLeft text.toList)).1).IsProper :=
    Double.isProper_ofDecimal _ _ _
  rw [← same]
  simp only
  split
  · split
    · exact double
    · trivial
  · exact double

theorem Value.isProper_number? (value : Value) (n : Number) (proper : value.All IsProper)
    (read : value.number? = some n) : n.IsProper := by
  cases value with
  | number m =>
      rw [number?, Option.ite_none_left_eq_some, Option.some_inj] at read
      exact read.2 ▸ (all_number IsProper m).mp proper
  | text s => exact Number.isProper_ofLeading? s n read
  | _ => cases read

theorem Series.isProper_points (value : Value) (series : Series) (proper : value.All Value.IsProper)
    (read : ofValue? value = .ok (some series)) : ∀ n ∈ series.points, n.IsProper := by
  obtain ⟨items, points, kept⟩ := exists_items value series read Value.IsProper trivial proper
  rw [points]
  intro n member
  obtain ⟨item, inside, number⟩ := List.mem_filterMap.mp member
  exact item.isProper_number? n (kept item inside) number

/-! ### Datasets -/

theorem Widget.Chart.isPresent_datasets_resolve (given : Fields) (distinct : (given.map Prod.fst).Nodup)
    (absent : (given.get "datasets").isPresent = false) :
    ((resolve Chart.defaults given).get "datasets").isPresent = false := by
  cases null : (given.get "datasets").isNull with
  | false => rw [get_resolve_of_given Chart.defaults given "datasets" null, absent]
  | true =>
      rw [resolve, List.append_assoc, Fields.get_withoutNulls_append_of_null given _ _ distinct null]
      rfl

namespace Widget.Chart

/-- The dataset holds these points as its data. -/
def HoldsPoints (dataset : Value) (points : List Number) : Prop :=
  ∃ own : Fields, dataset = .object own ∧ own.get "data" = .list (points.map .number)

theorem HoldsPoints.unique {dataset : Value} {points others : List Number}
    (holds : HoldsPoints dataset points) (holds' : HoldsPoints dataset others) : points = others := by
  obtain ⟨own, rfl, data⟩ := holds
  obtain ⟨_, same, data'⟩ := holds'
  rw [← Value.object.inj same, data] at data'
  refine List.map_injective_iff.mpr (fun n m same => ?_) (Value.list.inj data')
  exact Value.number.inj same

theorem dataset_holdsPoints (props own : Fields) (index : Nat) (built : Value)
    (made : dataset props index (.object own) = .ok built) :
    HoldsPoints built (own.get "dataPoints").points := by
  simp only [dataset, Value.fields?, Attempt.ok_bind, Attempt.bind_ite] at made
  obtain ⟨fill, _, whole⟩ := (Attempt.bind_eq_ok_iff _ _ _).mp made
  rw [← (Attempt.pure_eq_ok_iff _ _).mp whole]
  refine ⟨_, rfl, ?_⟩
  rw [Fields.get_withoutNulls _ _ (by simp)]
  rfl

theorem soleDataset_holdsPoints (props : Fields) :
    HoldsPoints (soleDataset props) ((props.get "dataPoints").orElse (.text defaultPoints)).points := by
  refine ⟨_, rfl, ?_⟩
  rw [Fields.get_withoutNulls _ _ (by simp)]
  rfl

/-- The datasets of an entry are those that are built for the chart. -/
theorem component_datasets (id : String) (props : Fields) (entry : Component)
    (made : component id props = .ok entry) :
    ∃ built, builtDatasets props = .ok built ∧ entry.props.get "datasets" = .list built := by
  obtain ⟨shownLabels, _, rest⟩ := (Attempt.bind_eq_ok_iff _ _ _).mp made
  obtain ⟨built, datasets, rest⟩ := (Attempt.bind_eq_ok_iff _ _ _).mp rest
  obtain ⟨bound, _, whole⟩ := (Attempt.bind_eq_ok_iff _ _ _).mp rest
  refine ⟨built, datasets, ?_⟩
  rw [← (Attempt.pure_eq_ok_iff _ _).mp whole, get_withCondition _ _ _ (by decide)]
  rfl

end Widget.Chart

/-- A dataset whose data has the numbers of a series, in their order. -/
def Series.IsPlottedBy (series : Series) (dataset : Value) : Prop :=
  ∃ points, Chart.HoldsPoints dataset points ∧
    List.Forall₂ (fun point n => Number.same point n = true) points series.points

theorem Series.isPlottedBy_iff (series : Series) (dataset : Value) (points : List Number)
    (holds : Chart.HoldsPoints dataset points) :
    series.IsPlottedBy dataset ↔
      List.Forall₂ (fun point n => Number.same point n = true) points series.points := by
  constructor
  · rintro ⟨others, own, related⟩
    rwa [holds.unique own]
  · exact fun related => ⟨points, holds, related⟩

namespace Preview

variable (props : Fields) (data : Value)

/-- The series that one dataset is bound to. -/
def listedSeries (dataset : Value) : Except Fault (Option Series) := do
  datasetSeries (← dataset.fields?) data

/-- The series that the datasets of a chart are bound to, in their order. A chart that lists no datasets has a
single one, with the binding of the chart itself. -/
def chartSeries : Except Fault (List (Option Series)) := do
  let given := props.get "datasets"
  if given.isPresent then (← given.items?).mapM (listedSeries data)
  else return [← boundValue props data >>= Series.ofValue?]

/-- A chart with nothing but an empty series shows the points of its settings instead. -/
def CanPlot (series : Series) : Prop :=
  ((props.get "datasets").isPresent = true ∨ series.points ≠ []) ∧ ∀ n ∈ series.points, n.HasDouble

/-- The dataset is an object, with the points of its series where it is bound to one. -/
def IsFilled (series? : Option Series) (dataset : Value) : Prop :=
  ∃ own : Fields, dataset = .object own ∧
    ∀ series ∈ series?, own.get "dataPoints" = .text series.pointsText

theorem bindDataset_isFilled (labels after : List Value) (dataset bound : Value)
    (made : bindDataset data labels dataset = .ok (bound, after)) :
    ∃ series?, listedSeries data dataset = .ok series? ∧ IsFilled series? bound := by
  obtain ⟨own, rfl, changed⟩ := bindDataset_cases data labels after dataset bound made
  rcases changed with ⟨none_, rfl, _⟩ | ⟨series, some_, rfl, _⟩
  · exact ⟨none, none_, own, rfl, fun _ member => by cases member⟩
  · refine ⟨some series, some_, _, rfl, fun _ member => ?_⟩
    rw [Fields.get_set_self, Option.some.inj member]

theorem bindDatasets_isFilled (labels after items bound : List Value)
    (made : bindDatasets data labels items = .ok (bound, after)) :
    ∃ found, items.mapM (listedSeries data) = .ok found ∧ List.Forall₂ IsFilled found bound := by
  simp only [Attempt.mapM_eq_ok_iff]
  induction items generalizing labels bound with
  | nil =>
      obtain ⟨rfl, _⟩ := Prod.mk.inj (Except.ok.inj made)
      exact ⟨[], .nil, .nil⟩
  | cons dataset rest ih =>
      obtain ⟨first, between, others, one, several, rfl⟩ :=
        bindDatasets_cons data labels after dataset rest bound made
      obtain ⟨series?, here, filled⟩ := bindDataset_isFilled data labels between dataset first one
      obtain ⟨found, later, related⟩ := ih between others several
      exact ⟨series? :: found, .cons here later, .cons filled related⟩

/-- One dataset of several plots its series just when every number has a double. -/
theorem isPlottedBy_dataset_iff (props own : Fields) (index : Nat) (built : Value) (series : Series)
    (proper : ∀ n ∈ series.points, n.IsProper) (filled : own.get "dataPoints" = .text series.pointsText)
    (made : Chart.dataset props index (.object own) = .ok built) :
    series.IsPlottedBy built ↔ ∀ n ∈ series.points, n.HasDouble := by
  have holds := Chart.dataset_holdsPoints props own index built made
  rw [filled] at holds
  rw [series.isPlottedBy_iff built _ holds, series.forall₂_points_iff proper]

-- The placeholder is not empty, so that it is never the series which it stands in for.
theorem isPlottedBy_soleDataset_iff (props : Fields) (series : Series)
    (proper : ∀ n ∈ series.points, n.IsProper) (filled : props.get "dataPoints" = .text series.pointsText) :
    series.IsPlottedBy (Chart.soleDataset props) ↔
      series.points ≠ [] ∧ ∀ n ∈ series.points, n.HasDouble := by
  have holds := Chart.soleDataset_holdsPoints props
  rw [filled] at holds
  rw [series.isPlottedBy_iff _ _ holds, Value.orElse]
  by_cases none_ : series.points = []
  · rw [if_neg fun present => series.isPresent_pointsText.mp present none_, none_]
    refine iff_of_false (fun related => ?_) (fun both => both.1 rfl)
    have lengths := related.length_eq
    have placeholder : (Value.text Chart.defaultPoints).points.length = 5 := by decide +kernel
    rw [placeholder] at lengths
    cases lengths
  · rw [if_pos (series.isPresent_pointsText.mpr none_), series.forall₂_points_iff proper]
    exact ⟨fun each => ⟨none_, each⟩, And.right⟩

/-- What a chart with its data filled in has for datasets and for points of its own. -/
theorem bindChart_points (chart : Fields) (filled : bindChart props data = .ok chart) :
    (∃ items bound labels, props.get "datasets" = .list items ∧ items ≠ [] ∧
        bindDatasets data [] items = .ok (bound, labels) ∧ chart.get "datasets" = .list bound) ∨
      (props.get "datasets").isPresent = false ∧
        ∃ series?, (boundValue props data >>= Series.ofValue?) = .ok series? ∧
          (chart.get "datasets").isPresent = false ∧
          ∀ series ∈ series?, chart.get "dataPoints" = .text series.pointsText := by
  obtain ⟨titled, title, cases⟩ := bindChart_cases props data chart filled
  have kept : titled.get "datasets" = props.get "datasets" := by
    rcases boundTitle_cases props data titled title with ⟨rfl, _⟩ | ⟨s, text, _, _, _, rfl⟩
    · rfl
    · exact Fields.get_set_of_ne props _ _ _ (by decide)
  rcases cases with ⟨items, bound, labels, list, some_, several, rfl⟩ | ⟨absent, series?, read, rfl⟩
  · refine Or.inl ⟨items, bound, labels, list, some_, several, ?_⟩
    rw [get_withLabels _ _ _ (by decide), Fields.get_set_self]
  · refine Or.inr ⟨absent, series?, read, ?_⟩
    cases series? with
    | none => exact ⟨by rw [kept, absent], fun series member => by cases member⟩
    | some series =>
        refine ⟨?_, fun other member => ?_⟩
        · rw [get_withLabels _ _ _ (by decide), Fields.get_set_of_ne _ _ _ _ (by decide), kept, absent]
        · rw [get_withLabels _ _ _ (by decide), Fields.get_set_self, Option.some.inj member]

section Found

variable (proper : data.All Value.IsProper)
include proper

theorem isProper_boundSeries (series : Series)
    (read : (boundValue props data >>= Series.ofValue?) = .ok (some series)) :
    ∀ n ∈ series.points, n.IsProper := by
  obtain ⟨value, found, made⟩ := (Attempt.bind_eq_ok_iff _ _ _).mp read
  exact series.isProper_points value
    (Path.all_resolve Value.IsProper trivial (fun _ => trivial) _ data value proper found) made

theorem isProper_listedSeries (dataset : Value) (series : Series)
    (read : listedSeries data dataset = .ok (some series)) : ∀ n ∈ series.points, n.IsProper := by
  obtain ⟨own, _, read⟩ := (Attempt.bind_eq_ok_iff _ _ _).mp read
  unfold datasetSeries at read
  simp only at read
  split at read
  · obtain ⟨value, found, made⟩ := (Attempt.bind_eq_ok_iff _ _ _).mp read
    exact series.isProper_points value
      (Path.all_resolveValue Value.IsProper trivial (fun _ => trivial) _ data value proper found) made
  · cases Except.ok.inj read

variable (id : String) (chart : Fields) (entry : Component)

theorem builtDatasets_of_list (items bound built : List Value) (labels : List Value)
    (several : bindDatasets data [] items = .ok (bound, labels)) (some_ : items ≠ [])
    (list : chart.get "datasets" = .list bound) (made : Chart.builtDatasets chart = .ok built) :
    ∃ found, items.mapM (listedSeries data) = .ok found ∧
      List.Forall₂ (fun (series? : Option Series) dataset => ∀ series ∈ series?,
        (series.IsPlottedBy dataset ↔ ∀ n ∈ series.points, n.HasDouble)) found built := by
  obtain ⟨found, listed, filled⟩ := bindDatasets_isFilled data [] labels items bound several
  refine ⟨found, listed, ?_⟩
  have properly : ∀ series? ∈ found, ∀ series ∈ series?, ∀ n ∈ series.points, n.IsProper := by
    intro series? member series own
    obtain ⟨dataset, _, read⟩ := Attempt.mem_of_mapM _ _ _ listed series? member
    rw [Option.mem_def.mp own] at read
    exact isProper_listedSeries data proper dataset series read
  have nonempty : bound ≠ [] := by
    rintro rfl
    rw [List.forall₂_nil_right_iff] at filled
    rw [filled, Attempt.mapM_eq_ok_iff, List.forall₂_nil_right_iff] at listed
    exact some_ listed
  have each : List.Forall₂ (fun value dataset => ∃ index, Chart.dataset chart index value = .ok dataset)
      bound built := by
    obtain ⟨own, datasets, rest⟩ := (Attempt.bind_eq_ok_iff _ _ _).mp made
    rw [datasets_of_list chart bound list] at datasets
    obtain rfl := Except.ok.inj datasets
    split at rest
    · exact absurd rfl nonempty
    · have numbered := (Attempt.mapM_eq_ok_iff _ _ _).mp rest
      rw [← List.zipIdx_map_fst 0 bound, List.forall₂_map_left_iff]
      exact numbered.imp fun entry dataset made => ⟨entry.2, made⟩
  have both := (List.forall₂_and_left _ _).mpr ⟨properly, forall₂_through filled each⟩
  refine both.imp ?_
  rintro series? dataset ⟨proper, value, ⟨own, rfl, points⟩, index, made⟩ series member
  exact isPlottedBy_dataset_iff chart own index dataset series (proper series member)
    (points series member) made

/-- The entry of a chart in a preview plots the series that its datasets are bound to: each dataset has the
numbers of its series just when every number has a double, and when there are any where the chart has a single
dataset of its own. -/
theorem component_plots_iff (distinct : (props.map Prod.fst).Nodup) (filled : bindChart props data = .ok chart)
    (made : Chart.component id (resolve Chart.defaults chart) = .ok entry) :
    ∃ found built, chartSeries props data = .ok found ∧ entry.props.get "datasets" = .list built ∧
      List.Forall₂ (fun (series? : Option Series) dataset => ∀ series ∈ series?,
        (series.IsPlottedBy dataset ↔ CanPlot props series)) found built := by
  obtain ⟨built, datasets, entered⟩ := Chart.component_datasets id _ entry made
  rcases bindChart_points props data chart filled with
    ⟨items, bound, labels, list, some_, several, kept⟩ | ⟨absent, series?, read, kept, points⟩
  · have present : (props.get "datasets").isPresent = true := by
      rw [list, Value.isPresent]
      simpa using some_
    have resolved := get_resolve_of_given Chart.defaults chart "datasets" (by rw [kept]; rfl)
    obtain ⟨found, listed, plotted⟩ := builtDatasets_of_list data proper _ items bound built labels several
      some_ (resolved.trans kept) datasets
    refine ⟨found, built, ?_, entered, plotted.imp fun series? dataset each series member => ?_⟩
    · rw [chartSeries]
      simp only [present, if_true]
      rw [list]
      exact listed
    · rw [each series member, CanPlot, present]
      simp
  · have single := (bindChart_fills props data chart filled).nodup props chart distinct
    have none_ := Chart.isPresent_datasets_resolve chart single kept
    obtain rfl : built = [Chart.soleDataset (resolve Chart.defaults chart)] := by
      rw [Chart.builtDatasets, Chart.datasets, none_] at datasets
      exact (Except.ok.inj datasets).symm
    refine ⟨[series?], _, ?_, entered, .cons (fun series member => ?_) .nil⟩
    · rw [chartSeries]
      simp only [absent]
      rw [read]
      rfl
    · rw [Option.mem_def.mp member] at read
      have own := points series member
      rw [CanPlot, absent]
      simp only [Bool.false_eq_true, false_or]
      refine isPlottedBy_soleDataset_iff _ series (isProper_boundSeries props data proper series read) ?_
      rw [get_resolve_of_given _ _ _ (by rw [own]; rfl), own]

end Found

/-- A chart bound to a series, and data that has the series. -/
def soleChart : Fields := [("binding", .text "sales")]

def salesData (points : List Value) : Value := .object [("sales", .object [("data", .list points)])]

/-- The chart with the points of the series filled in. -/
def filledChart (points : String) : Fields := [("binding", .text "sales"), ("dataPoints", .text points)]

theorem component_plots_sales :
    (salesData [.int 1, .int 2]).All Value.IsProper ∧ (soleChart.map Prod.fst).Nodup ∧
      bindChart soleChart (salesData [.int 1, .int 2]) = .ok (filledChart "1, 2") ∧
      ∃ entry dataset, Chart.component "c" (resolve Chart.defaults (filledChart "1, 2")) = .ok entry ∧
        entry.props.get "datasets" = .list [dataset] ∧
        Series.IsPlottedBy { points := [.int 1, .int 2], labels := none } dataset := by
  have proper : (salesData [.int 1, .int 2]).All Value.IsProper := by
    simp [salesData, Value.IsProper, Value.int, Number.IsProper]
  have distinct : (soleChart.map Prod.fst).Nodup := by decide
  have filled : bindChart soleChart (salesData [.int 1, .int 2]) = .ok (filledChart "1, 2") := rfl
  obtain ⟨entry, made⟩ : ∃ entry,
      Chart.component "c" (resolve Chart.defaults (filledChart "1, 2")) = .ok entry := ⟨_, rfl⟩
  refine ⟨proper, distinct, filled, entry, ?_⟩
  obtain ⟨found, built, read, entered, plots⟩ :=
    component_plots_iff soleChart _ proper "c" _ entry distinct filled made
  obtain rfl : [some { points := [.int 1, .int 2], labels := none }] = found := Except.ok.inj read
  obtain ⟨dataset, rest, plotted, none_, rfl⟩ := List.forall₂_cons_left_iff.mp plots
  rw [List.forall₂_nil_left_iff] at none_
  subst none_
  have small : ∀ n ∈ [Number.int 1, .int 2], n.HasDouble :=
    List.forall_mem_cons.mpr ⟨Number.hasDouble_of_small 1 (by decide),
      List.forall_mem_singleton.mpr (Number.hasDouble_of_small 2 (by decide))⟩
  exact ⟨dataset, made, entered, (plotted _ rfl).mpr ⟨Or.inr (by simp), small⟩⟩

/-- An empty series is not plotted. In its place come the points of a chart that has none. -/
theorem component_plots_placeholder :
    bindChart soleChart (salesData []) = .ok (filledChart "") ∧
      (boundValue soleChart (salesData []) >>= Series.ofValue?) =
        .ok (some { points := [], labels := none }) ∧
      ∃ entry dataset, Chart.component "c" (resolve Chart.defaults (filledChart "")) = .ok entry ∧
        entry.props.get "datasets" = .list [dataset] ∧
        Chart.HoldsPoints dataset [.int 65, .int 59, .int 80, .int 81, .int 56] ∧
        ¬ Series.IsPlottedBy { points := [], labels := none } dataset := by
  have placeholder := Chart.soleDataset_holdsPoints (resolve Chart.defaults (filledChart ""))
  have points : (((resolve Chart.defaults (filledChart "")).get "dataPoints").orElse
      (.text Chart.defaultPoints)).points = [.int 65, .int 59, .int 80, .int 81, .int 56] := by
    decide +kernel
  rw [points] at placeholder
  refine ⟨rfl, rfl, _, Chart.soleDataset (resolve Chart.defaults (filledChart "")), rfl, rfl,
    placeholder, ?_⟩
  rw [isPlottedBy_soleDataset_iff _ _ (by simp) rfl]
  exact fun plotted => plotted.1 rfl

end Preview

end ReportCompiler
