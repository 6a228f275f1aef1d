import ReportCompiler.Proofs.Preview.Filling
import ReportCompiler.Proofs.Value.Leaves
import ReportCompiler.Widget.Renderer

/-!
Where the values in an entry come from: every leaf is one of the widget's settings, or one that widgets add
of their own: texts, flags and whole numbers. The points of a chart are read from texts, and what must hold of
them is asked apart.
-/

namespace ReportCompiler

/-- The leaves that widgets add of their own are among these, save for the points of charts. -/
structure AdmitsFixed (leaf : Value → Prop) : Prop where
  null : leaf .null
  text : ∀ s, leaf (.text s)
  bool : ∀ b, leaf (.bool b)
  int : ∀ n : Int, leaf (.number (.int n))
  tension : leaf (.number (.double (.ofDecimal false 3 (-1))))
  spacing : leaf (.number (.double (.ofDecimal false 16 (-1))))

/-- The leaves that widgets add of their own are among these, whatever points their charts have. -/
structure AdmitsOwn (leaf : Value → Prop) : Prop extends AdmitsFixed leaf where
  number : ∀ n, leaf (.number n)

theorem admitsOwn_isTimeless : AdmitsOwn Value.IsTimeless where
  null := trivial
  text _ := trivial
  bool _ := trivial
  int _ := trivial
  tension := trivial
  spacing := trivial
  number _ := trivial

variable (leaf : Value → Prop) (own : AdmitsFixed leaf)
include own

namespace Widget

/-! ### Settings -/

theorem all_resolve (kind : Kind) (given : Fields) (all : Fields.All leaf given) :
    Fields.All leaf (resolve kind.defaults given) := by
  have shared : Fields.All leaf sharedDefaults := by
    simp [sharedDefaults, Value.int, own.int, own.bool]
  have usual : Fields.All leaf kind.defaults := by
    cases kind <;>
      simp [Kind.defaults, Page.defaults, Container.defaults, Spacer.defaults, Divider.defaults,
        PageBreak.defaults, PageNumber.defaults, Image.defaults, FreeText.defaults,
        BulletList.defaults, DateTime.defaults, Indicator.defaults, Gauge.defaults,
        ProgressBar.defaults, Table.defaults, Chart.defaults, Value.int, Value.double, own.int, own.bool,
        own.text, own.spacing]
  rw [resolve, Fields.all_append, Fields.all_append]
  exact ⟨⟨Fields.all_withoutNulls leaf given all, usual⟩, shared⟩

theorem all_withCondition_iff (props entries : Fields) :
    Fields.All leaf (withCondition props entries) ↔ Fields.All leaf entries := by
  unfold withCondition
  split
  · simp [own.text]
  · exact Iff.rfl

theorem all_carried (names : List String) (props : Fields) (all : Fields.All leaf props) :
    Fields.All leaf (carried names props) := by
  intro field member
  obtain ⟨name, _, rfl⟩ := List.mem_map.mp member
  exact Fields.all_get leaf props name own.null all

theorem all_component? (kind : Kind) (names : List String) (bound : Bool) (id : String)
    (props : Fields) (component : Component) (all : Fields.All leaf props)
    (entered : component? kind names bound id props = some component) :
    Fields.All leaf component.props := by
  unfold component? at entered
  split at entered
  · cases entered
    refine (all_withCondition_iff leaf own props _).mpr ?_
    split
    · exact all_carried leaf own names props all
    · exact Fields.all_nil leaf
  · cases entered

/-! ### Charts -/

namespace Chart

/-- The setting that holds the points of a chart's only dataset. -/
def soleSetting (props : Fields) : Value := (props.get "dataPoints").orElse (.text defaultPoints)

/-- The setting that holds the points of one dataset of several. -/
def datasetSetting : Value → Value
  | .object own => Fields.get own "dataPoints"
  | _ => .null

/-- The settings that the points of a chart are read from, one for each dataset. -/
def pointSettings (props : Fields) : Except Fault (List Value) := do
  match ← datasets props with
  | [] => return [soleSetting props]
  | several => return several.map datasetSetting

theorem all_colorValues : colorValues.All leaf := by
  simp [colorValues, own.text]

theorem all_curved (isCurved : Bool) : (curved isCurved).All leaf := by
  cases isCurved
  · simpa [curved, Value.int] using own.int 0
  · simpa [curved, Value.double] using own.tension

omit own in
theorem all_numbers_iff (points : List Number) :
    (Value.list (points.map .number)).All leaf ↔ ∀ n ∈ points, leaf (.number n) := by
  simp

theorem all_chartType (props : Fields) (all : Fields.All leaf props) :
    (chartType props).All leaf :=
  Value.all_orElse leaf _ _ (Fields.all_get leaf props _ own.null all) (by simp [own.text])

theorem all_given (value : Value) (all : value.All leaf) : (given value).All leaf :=
  Value.all_orElse leaf value .null all (by simp [own.null])

theorem all_softened (color soft : Value) (all : color.All leaf)
    (made : softened color = .ok soft) : soft.All leaf := by
  unfold softened at made
  split at made
  · split at made
    · obtain ⟨text, _, rfl⟩ := (Attempt.map_eq_ok_iff _ _ _).mp made
      simp [own.text]
    · cases made
      exact all
  · cases made

theorem all_dataset_iff (props : Fields) (index : Nat) (value built : Value)
    (all : Fields.All leaf props) (given : value.All leaf)
    (made : dataset props index value = .ok built) :
    built.All leaf ↔ ∀ n ∈ (datasetSetting value).points, leaf (.number n) := by
  obtain ⟨fields, object, rest⟩ := (Attempt.bind_eq_ok_iff _ _ _).mp made
  simp only [Attempt.bind_ite] at rest
  obtain ⟨fill, filled, whole⟩ := (Attempt.bind_eq_ok_iff _ _ _).mp rest
  have inside := Value.all_fields? leaf value fields given object
  have field := fun key => Fields.all_get leaf fields key own.null inside
  have color : ((fields.get "color").orElse
      (.text (colors.getD (index % colors.length) ""))).All leaf :=
    Value.all_orElse leaf _ _ (field "color") (by simp [own.text])
  have fill : fill.All leaf := by
    split at filled
    · rw [← (Attempt.pure_eq_ok_iff _ _).mp filled]
      exact field "backgroundColor"
    · exact all_softened leaf own _ fill color filled
  have setting : datasetSetting value = fields.get "dataPoints" := by
    cases value with
    | object _ =>
        cases object
        rfl
    | _ => cases object
  rw [← (Attempt.pure_eq_ok_iff _ _).mp whole, Value.all_object,
    Fields.all_withoutNulls_iff leaf _ own.null, setting, ← all_numbers_iff leaf]
  have palette := all_colorValues leaf own
  have type := all_chartType leaf own props all
  simp only [Fields.all_cons, Fields.all_nil, and_true]
  refine ⟨fun whole => whole.2.2.2.1, fun data =>
    ⟨?_, ?_, field "dataPoints", data, ?_, ?_, color, ?_, ?_, ?_, ?_⟩⟩
  · exact Value.all_orElse leaf _ _ (field "label") (by simp [own.text])
  · exact all_given leaf own _ (field "binding")
  · split
    · simp [own.null]
    · exact Value.all_orElse leaf _ _ (field "chartType") type
  · split
    · exact palette
    · exact fill
  · simpa [Value.int] using own.int 2
  · split
    · exact field "yAxisID"
    · simp [own.text]
  · simp [own.bool]
  · exact all_curved leaf own _

theorem all_soleDataset_iff (props : Fields) (all : Fields.All leaf props) :
    (soleDataset props).All leaf ↔ ∀ n ∈ (soleSetting props).points, leaf (.number n) := by
  have field := fun key => Fields.all_get leaf props key own.null all
  rw [soleDataset, Value.all_object, Fields.all_withoutNulls_iff leaf _ own.null, soleSetting,
    ← all_numbers_iff leaf]
  simp only [Fields.all_cons, Fields.all_nil, and_true]
  refine ⟨fun whole => whole.2.2.2.1, fun data =>
    ⟨?_, ?_, ?_, data, ?_, ?_, ?_, ?_, ?_, all_curved leaf own _⟩⟩
  · exact Value.all_orElse leaf _ _ (field "label") (by simp [own.text])
  · exact all_given leaf own _ (field "binding")
  · exact Value.all_orElse leaf _ _ (field "dataPoints") (by simp [own.text])
  · split
    · exact all_colorValues leaf own
    · exact field "backgroundColor"
  · split
    · simp [own.text]
    · exact field "borderColor"
  · simpa [Value.int] using own.int 2
  · simp [own.text]
  · simp [own.bool]

theorem all_items (value : Value) (items : List Value) (all : value.All leaf)
    (listed : value.items? = .ok items) : ∀ item ∈ items, item.All leaf := by
  cases value with
  | list items_ =>
      cases listed
      simpa using all
  | object fields =>
      cases listed
      intro item member
      obtain ⟨field, _, rfl⟩ := List.mem_map.mp member
      simp [own.text]
  | text s =>
      cases listed
      intro item member
      obtain ⟨c, _, rfl⟩ := List.mem_map.mp member
      simp [own.text]
  | _ => cases listed

theorem all_datasets (props : Fields) (items : List Value) (all : Fields.All leaf props)
    (listed : datasets props = .ok items) : ∀ item ∈ items, item.All leaf := by
  unfold datasets at listed
  simp only at listed
  split at listed
  · exact all_items leaf own _ items (Fields.all_get leaf props _ own.null all) listed
  · cases listed
    simp

theorem all_title (props : Fields) (all : Fields.All leaf props) :
    ((props.get "title").orElse (.text "")).All leaf :=
  Value.all_orElse leaf _ _ (Fields.all_get leaf props "title" own.null all) (by simp [own.text])

theorem all_scales (type : Value) (twoAxes : Bool) : (scales type twoAxes).All leaf := by
  have side : ∀ position title, Fields.All leaf (sideScale position title) := by
    simp [sideScale, baseScale, ticks, own.text, own.bool]
  have grid : (Value.object [("drawOnChartArea", .bool false)]).All leaf := by simp [own.bool]
  have right := Fields.all_set leaf _ "grid" _ (side "right" "Secondary Axis") grid
  unfold scales
  split
  · simp [own.null]
  · split
    · simp [side, right, ticks, own.text]
    · simp [baseScale, ticks, own.text, own.bool]

theorem all_options (props : Fields) (all : Fields.All leaf props) :
    Fields.All leaf (options props) := by
  have title := all_title leaf own props all
  have scales := all_scales leaf own (chartType props) (hasTwoAxes props)
  apply Fields.all_withoutNulls
  simp [own.text, own.bool, own.int, Value.int, title, scales]

theorem all_bindings (props bound : Fields) (all : Fields.All leaf props)
    (made : bindings props = .ok bound) : Fields.All leaf bound := by
  obtain ⟨items, listed, rest⟩ := (Attempt.bind_eq_ok_iff _ _ _).mp made
  obtain ⟨series, each, whole⟩ := (Attempt.bind_eq_ok_iff _ _ _).mp rest
  rw [← (Attempt.pure_eq_ok_iff _ _).mp whole]
  apply Fields.all_withoutNulls
  simp only [Fields.all_cons, Fields.all_nil, and_true, Value.all_list]
  refine ⟨?_, ?_, all_given leaf own _ (Fields.all_get leaf props _ own.null all)⟩
  · split
    · exact all_title leaf own props all
    · simp [own.null]
  · intro entry member
    obtain ⟨item, inside, bound⟩ := Attempt.mem_of_mapM _ _ _ each entry member
    obtain ⟨fields, object, made⟩ := (Attempt.bind_eq_ok_iff _ _ _).mp bound
    have given := all_datasets leaf own props items all listed item inside
    have within := Value.all_fields? leaf item fields given object
    rw [← (Attempt.pure_eq_ok_iff _ _).mp made, Value.all_object]
    apply Fields.all_withoutNulls
    simp [Fields.all_get leaf fields _ own.null within]

theorem all_pointSettings (props : Fields) (settings : List Value) (all : Fields.All leaf props)
    (read : pointSettings props = .ok settings) : ∀ value ∈ settings, value.All leaf := by
  obtain ⟨items, listed, rest⟩ := (Attempt.bind_eq_ok_iff _ _ _).mp read
  have given := all_datasets leaf own props items all listed
  split at rest <;> rw [← (Attempt.pure_eq_ok_iff _ _).mp rest]
  · refine List.forall_mem_singleton.mpr (Value.all_orElse leaf _ _ ?_ (by simp [own.text]))
    exact Fields.all_get leaf props _ own.null all
  · refine List.forall_mem_map.mpr fun item member => ?_
    cases item with
    | object fields =>
        exact Fields.all_get leaf fields _ own.null ((Value.all_object leaf fields).mp (given _ member))
    | _ => exact (Value.all_null leaf).mpr own.null

theorem all_builtDatasets_iff (props : Fields) (built : List Value) (all : Fields.All leaf props)
    (made : builtDatasets props = .ok built) :
    ∃ settings, pointSettings props = .ok settings ∧
      ((∀ item ∈ built, item.All leaf) ↔
        ∀ value ∈ settings, ∀ n ∈ value.points, leaf (.number n)) := by
  obtain ⟨items, listed, rest⟩ := (Attempt.bind_eq_ok_iff _ _ _).mp made
  have given := all_datasets leaf own props items all listed
  rw [pointSettings, listed]
  cases items with
  | nil =>
      refine ⟨[soleSetting props], rfl, ?_⟩
      rw [← (Attempt.pure_eq_ok_iff _ _).mp rest, List.forall_mem_singleton, List.forall_mem_singleton]
      exact all_soleDataset_iff leaf own props all
  | cons first others =>
      refine ⟨(first :: others).map datasetSetting, rfl, ?_⟩
      rw [Attempt.forall_mem_mapM_iff _ _ built rest
        (fun entry => ∀ n ∈ (datasetSetting entry.1).points, leaf (.number n)) (fun item => item.All leaf)
        fun entry member item made => all_dataset_iff leaf own props entry.2 entry.1 item all
          (given entry.1 (List.fst_mem_of_mem_zipIdx member)) made]
      rw [← List.forall_mem_map (f := Prod.fst)
        (P := fun value => ∀ n ∈ (datasetSetting value).points, leaf (.number n)),
        List.zipIdx_map_fst, List.forall_mem_map]

/-- The leaves of a chart's entry are as they must be just when its points are. -/
theorem all_component_iff (id : String) (props : Fields) (component : Component)
    (all : Fields.All leaf props) (made : Chart.component id props = .ok component) :
    ∃ settings, pointSettings props = .ok settings ∧
      (Fields.All leaf component.props ↔
        ∀ value ∈ settings, ∀ n ∈ value.points, leaf (.number n)) := by
  obtain ⟨shown, _, rest⟩ := (Attempt.bind_eq_ok_iff _ _ _).mp made
  obtain ⟨built, datasets, rest⟩ := (Attempt.bind_eq_ok_iff _ _ _).mp rest
  obtain ⟨bound, bindings, whole⟩ := (Attempt.bind_eq_ok_iff _ _ _).mp rest
  obtain ⟨settings, read, sets⟩ := all_builtDatasets_iff leaf own props built all datasets
  refine ⟨settings, read, ?_⟩
  have options := all_options leaf own props all
  have bindings := all_bindings leaf own props bound all bindings
  have type := all_chartType leaf own props all
  have title := all_title leaf own props all
  rw [← (Attempt.pure_eq_ok_iff _ _).mp whole, all_withCondition_iff leaf own, ← sets]
  simp [type, title, options, bindings, own.text, own.bool]

end Chart

/-! ### All other kinds -/

theorem Kind.all_entry (kind : Kind) (other : kind ≠ .chart) (id : String) (props : Fields)
    (component : Component) (all : Fields.All leaf props)
    (entered : kind.entry id props = .ok (some component)) : Fields.All leaf component.props := by
  cases kind with
  | chart => exact absurd rfl other
  | pageNumber => cases entered
  | _ => exact all_component? leaf own _ _ _ id props component all (Except.ok.inj entered)

theorem all_renderer_component (kind : Kind) (other : kind ≠ .chart) (id : String) (given : Fields)
    (entry : Option Component) (all : Fields.All leaf given)
    (made : kind.renderer.component id given = .ok entry) :
    ∀ component ∈ entry, Fields.All leaf component.props := by
  intro component entered
  rw [Kind.component_renderer] at made
  split at made
  · rw [← Except.ok.inj made] at entered
    cases entered
  · obtain rfl : entry = some component := entered
    exact kind.all_entry leaf own other id _ component (all_resolve leaf own kind given all) made

end Widget

/-! ### Charts with data filled in -/

namespace Preview

theorem all_withLabels (labels : List Value) (props : Fields) (all : Fields.All leaf props) :
    Fields.All leaf (withLabels labels props) := by
  unfold withLabels
  split
  · exact all
  · exact Fields.all_set leaf props _ _ all (by simp [own.text])

theorem all_boundTitle (props titled : Fields) (data : Value) (all : Fields.All leaf props)
    (made : boundTitle props data = .ok titled) : Fields.All leaf titled := by
  unfold boundTitle at made
  split at made
  · split at made
    · obtain ⟨text, _, whole⟩ := (Attempt.bind_eq_ok_iff _ _ _).mp made
      rw [← (Attempt.pure_eq_ok_iff _ _).mp whole]
      exact Fields.all_set leaf props _ _ all (by simp [own.text])
    · cases made
      exact all
  · cases made
    exact all

-- Only text comes out of the data: the points of a series, written one after the other.
theorem all_bindDataset (data dataset : Value) (labels : List Value) (bound : Value × List Value)
    (all : dataset.All leaf) (made : bindDataset data labels dataset = .ok bound) :
    bound.1.All leaf := by
  obtain ⟨fields, object, rest⟩ := (Attempt.bind_eq_ok_iff _ _ _).mp made
  obtain ⟨series, _, rest⟩ := (Attempt.bind_eq_ok_iff _ _ _).mp rest
  split at rest <;> rw [← (Attempt.pure_eq_ok_iff _ _).mp rest]
  · have inside := Value.all_fields? leaf dataset fields all object
    rw [Value.all_object]
    exact Fields.all_set leaf fields _ _ inside (by simp [own.text])
  · exact all

theorem all_bindDatasets (data : Value) (labels : List Value) (datasets : List Value)
    (bound : List Value × List Value) (all : ∀ dataset ∈ datasets, dataset.All leaf)
    (made : bindDatasets data labels datasets = .ok bound) :
    ∀ dataset ∈ bound.1, dataset.All leaf := by
  induction datasets generalizing labels bound with
  | nil =>
      cases made
      simp
  | cons dataset rest ih =>
      obtain ⟨first, others⟩ := List.forall_mem_cons.mp all
      obtain ⟨one, here, later⟩ := (Attempt.bind_eq_ok_iff _ _ _).mp made
      obtain ⟨several, after, whole⟩ := (Attempt.bind_eq_ok_iff _ _ _).mp later
      rw [← (Attempt.pure_eq_ok_iff _ _).mp whole]
      exact List.forall_mem_cons.mpr
        ⟨all_bindDataset leaf own data dataset labels one first here,
          ih one.2 several others after⟩

theorem all_bindChart (props filled : Fields) (data : Value) (all : Fields.All leaf props)
    (made : bindChart props data = .ok filled) : Fields.All leaf filled := by
  obtain ⟨titled, title, rest⟩ := (Attempt.bind_eq_ok_iff _ _ _).mp made
  have kept := all_boundTitle leaf own props titled data all title
  simp only at rest
  split at rest
  · obtain ⟨items, listed, rest⟩ := (Attempt.bind_eq_ok_iff _ _ _).mp rest
    obtain ⟨bound, datasets, whole⟩ := (Attempt.bind_eq_ok_iff _ _ _).mp rest
    rw [← (Attempt.pure_eq_ok_iff _ _).mp whole]
    have given := Widget.Chart.all_items leaf own _ items
      (Fields.all_get leaf props _ own.null all) listed
    have sets := all_bindDatasets leaf own data [] items bound given datasets
    exact all_withLabels leaf own _ _ (Fields.all_set leaf titled _ _ kept (by simpa using sets))
  · obtain ⟨value, _, rest⟩ := (Attempt.bind_eq_ok_iff _ _ _).mp rest
    obtain ⟨series, _, rest⟩ := (Attempt.bind_eq_ok_iff _ _ _).mp rest
    split at rest <;> rw [← (Attempt.pure_eq_ok_iff _ _).mp rest]
    · refine all_withLabels leaf own _ _ ?_
      exact Fields.all_set leaf titled _ _ kept (by simp [own.text])
    · exact kept

theorem all_bound_chart (props filled : Fields) (data : Value) (all : Fields.All leaf props)
    (made : Preview.bound .chart props data = .ok filled) : Fields.All leaf filled := by
  obtain ⟨change, bind, whole⟩ := (Attempt.bind_eq_ok_iff _ _ _).mp made
  rw [← (Attempt.pure_eq_ok_iff _ _).mp whole]
  unfold Preview.bind at bind
  split at bind
  · rw [← (Attempt.pure_eq_ok_iff _ _).mp bind]
    exact all
  · obtain ⟨ofKind, bound, rest⟩ := (Attempt.bind_eq_ok_iff _ _ _).mp bind
    obtain ⟨chart, filled, rfl⟩ := (Attempt.map_eq_ok_iff _ _ _).mp bound
    have kept := all_bindChart leaf own props chart data all filled
    obtain ⟨refused, _, rest⟩ := (Attempt.bind_eq_ok_iff _ _ _).mp rest
    split at rest <;> rw [← (Attempt.pure_eq_ok_iff _ _).mp rest]
    · exact Fields.all_set leaf chart _ _ kept (by simp [own.bool])
    · exact kept

end Preview

end ReportCompiler
