import ReportCompiler.Proofs.Binding.Lookup
import ReportCompiler.Proofs.Compile.ChartPaths

/-!
What a preview reads of the data. All that binding a widget asks of the data, its condition aside, is asked
by a path that the entry of the widget lists, so that data which answers alike to those paths is filled in
alike.
-/

namespace ReportCompiler

open ReportCompiler.Widget

/-- Both data give the same answer to the path. -/
def Path.AnswersAlike (first second : Value) (path : String) : Prop :=
  Path.resolve path second = Path.resolve path first

namespace Preview

variable (first second : Value)

/-- The kinds whose own binding is looked up in the data. -/
def readsBinding (kind : Kind) : Bool := kind.carriedNames.contains "binding" || kind == .chart

/-- Both data give the same answers to all that binding a widget asks. -/
structure Agree (kind : Kind) (props : Fields) : Prop where
  binding : readsBinding kind = true → Path.AnswersAlike first second (bindingText props)
  text : kind = .text → ∀ s, props.get "text" = .text s →
    ∀ path ∈ Marker.paths s, Path.AnswersAlike first second path
  title : kind = .chart → ∀ s, props.get "title" = .text s →
    ∀ path ∈ Marker.paths s, Path.AnswersAlike first second path
  datasets : kind = .chart → ∀ items, (props.get "datasets").items? = .ok items →
    ∀ own, .object own ∈ items → ∀ s, Fields.get own "binding" = .text s →
      Path.AnswersAlike first second s

/-! ### Binding the same -/

section Congruence

variable (given : first.isNull = false) (otherGiven : second.isNull = false)
include given otherGiven

theorem interpolate_congr (s : String)
    (alike : ∀ path ∈ Marker.paths s, Path.AnswersAlike first second path) :
    Marker.interpolate s second = Marker.interpolate s first := by
  have shown : (Marker.pieces s).mapM (Marker.shown second) =
      (Marker.pieces s).mapM (Marker.shown first) := by
    apply Attempt.mapM_congr
    intro piece member
    unfold Marker.shown
    cases read : piece.path? with
    | none => rfl
    | some path =>
        have listed : path ∈ Marker.paths s := List.mem_filterMap.mpr ⟨piece, member, read⟩
        simp only [show Path.resolve path second = Path.resolve path first from alike path listed]
  rw [Marker.interpolate, Marker.interpolate, given, otherGiven, shown]

theorem boundTitle_congr (props : Fields)
    (alike : ∀ s, props.get "title" = .text s →
      ∀ path ∈ Marker.paths s, Path.AnswersAlike first second path) :
    boundTitle props second = boundTitle props first := by
  unfold boundTitle
  cases title : props.get "title" with
  | text s => simp only [interpolate_congr first second given otherGiven s (alike s title)]
  | _ => rfl

-- A binding that is no text cannot be looked up in whatever data there is.
theorem datasetSeries_congr (own : Fields)
    (alike : ∀ s, own.get "binding" = .text s → Path.AnswersAlike first second s) :
    datasetSeries own second = datasetSeries own first := by
  have same : Path.resolveValue (own.get "binding") second =
      Path.resolveValue (own.get "binding") first := by
    cases binding : own.get "binding" with
    | text s => exact alike s binding
    | _ => simp only [Path.resolveValue, given, otherGiven]
  simp only [datasetSeries, same]

theorem bindDatasets_congr (labels items : List Value)
    (alike : ∀ own, .object own ∈ items → ∀ s, Fields.get own "binding" = .text s →
      Path.AnswersAlike first second s) :
    bindDatasets second labels items = bindDatasets first labels items := by
  induction items generalizing labels with
  | nil => rfl
  | cons dataset rest ih =>
      have here : bindDataset second labels dataset = bindDataset first labels dataset := by
        cases dataset with
        | object own =>
            have series := datasetSeries_congr first second given otherGiven own
              (alike own List.mem_cons_self)
            simp only [bindDataset, Value.fields?, Attempt.ok_bind, series]
        | _ => rfl
      have later : ∀ labels, bindDatasets second labels rest = bindDatasets first labels rest :=
        fun labels => ih labels fun own member => alike own (List.mem_cons_of_mem _ member)
      simp only [bindDatasets, here, later]

theorem bindChart_congr (props : Fields) (agree : Agree first second .chart props) :
    bindChart props second = bindChart props first := by
  have title := boundTitle_congr first second given otherGiven props (agree.title rfl)
  have bound : boundValue props second = boundValue props first := agree.binding rfl
  unfold bindChart
  rw [title, bound]
  cases listed : (props.get "datasets").items? with
  | error fault => simp only [listed, Attempt.error_bind]
  | ok items =>
      have series := bindDatasets_congr first second given otherGiven [] items
        (agree.datasets rfl items listed)
      simp only [listed, Attempt.ok_bind, series]

theorem bindKind_congr (kind : Kind) (props : Fields) (agree : Agree first second kind props) :
    bindKind props second kind = bindKind props first kind := by
  have bound : readsBinding kind = true → boundValue props second = boundValue props first :=
    agree.binding
  cases kind with
  | text =>
      have filled : ∀ s, props.get "text" = .text s →
          Marker.interpolate s second = Marker.interpolate s first := fun s own =>
        interpolate_congr first second given otherGiven s (agree.text rfl s own)
      simp only [bindKind, bindText, bound rfl]
      cases own : props.get "text" with
      | text s => simp only [filled s own]
      | _ => rfl
  | chart => rw [bindKind, bindKind, bindChart_congr first second given otherGiven props agree]
  | table => simp only [bindKind, bindTable, bound rfl]
  | bulletList => simp only [bindKind, bindBulletList, bound rfl]
  | indicator => simp only [bindKind, bindIndicator, bound rfl]
  | gauge => simp only [bindKind, bindMeasure, bound rfl]
  | progressBar => simp only [bindKind, bindMeasure, bound rfl]
  | dateTime => simp only [bindKind, bindDate, bound rfl]
  | _ => rfl

theorem bound_congr (kind : Kind) (props : Fields) (agree : Agree first second kind props)
    (refused : isRefused props second = isRefused props first) :
    bound kind props second = bound kind props first := by
  have bound := bindKind_congr first second given otherGiven kind props agree
  simp only [Preview.bound, Preview.bind, given, otherGiven, bound, refused]

end Congruence

end Preview

/-! ### The paths of an entry -/

namespace Component

/-- The texts of the paths by which the embedded program looks up data for the entry. -/
def pathTexts (component : Component) : List String :=
  match component.paths with
  | .ok paths => paths.map Value.plain
  | .error _ => []

variable (component : Component) (paths : List Value) (made : component.paths = .ok paths)
include made

theorem mem_pathTexts (path : Value) (member : path ∈ paths) : path.plain ∈ component.pathTexts := by
  rw [pathTexts, made]
  exact List.mem_map_of_mem member

theorem mem_pathTexts_of_text (s : String) (member : .text s ∈ paths) : s ∈ component.pathTexts := by
  have listed := mem_pathTexts component paths made (.text s) member
  rwa [Value.plain] at listed

end Component

namespace Widget

theorem isNull_of_isPresent (value : Value) (present : value.isPresent = true) :
    value.isNull = false := by
  cases value with
  | null => cases present
  | _ => rfl

theorem isPresent_of_mem_items (value : Value) (items : List Value) (item : Value)
    (listed : value.items? = .ok items) (member : item ∈ items) : value.isPresent = true := by
  cases value with
  | list own =>
      obtain rfl := Except.ok.inj listed
      cases own with
      | nil => cases member
      | cons => rfl
  | object fields =>
      obtain rfl := Except.ok.inj listed
      cases fields with
      | nil => cases member
      | cons => rfl
  | text s =>
      obtain rfl := Except.ok.inj listed
      refine bne_iff_ne.mpr ?_
      rintro rfl
      cases member
  | _ => cases listed

/-- A binding is what its value says, without the blanks around it. -/
theorem bindingText_of_hasBinding (props : Fields) (bound : hasBinding props = true) :
    (props.get "binding").isPresent = true ∧
      bindingText props = Text.trim (props.get "binding").plain := by
  by_cases present : (props.get "binding").isPresent = true
  · exact ⟨present, by rw [bindingText, Value.plainIfPresent, if_pos present]⟩
  · have nothing : bindingText props = "" := by
      rw [bindingText, Value.plainIfPresent, if_neg present]
      decide
    rw [hasBinding, nothing] at bound
    cases bound

/-- A widget that looks up its binding is entered with its settings, so that the entry has its paths. -/
theorem paths_of_carried (kind : Kind) (id : String) (props : Fields) :
    let component : Component :=
      { id, type := kind.label, props := withCondition props (carried kind.carriedNames props) }
    component.paths =
      .ok (Component.bindingPaths component.props ++ Component.textPaths component.props) := by
  intro component
  have free : "bindings" ∉ kind.carriedNames := by cases kind <;> decide
  have none_ : component.props.get "bindings" = .null := by
    rw [get_withCondition _ _ _ (by decide)]
    apply Fields.get_of_not_mem
    rwa [map_fst_carried]
  rw [Component.paths, none_]
  simp only [pure_bind, List.append_nil]
  rfl

theorem Kind.entry_of_bound (kind : Kind) (id : String) (props : Fields) (other : kind ≠ .chart)
    (reads : Preview.readsBinding kind = true)
    (bound : hasBinding props = true ∨
      kind = .text ∧ Marker.occursIn (props.get "text") = true) :
    kind.entry id props = .ok (some
      { id, type := kind.label, props := withCondition props (carried kind.carriedNames props) }) := by
  cases kind with
  | text =>
      have either : FreeText.isBound props = true := by
        rw [FreeText.isBound, Bool.or_eq_true]
        exact bound.imp_right And.right
      simp only [Kind.entry, component?, either, Bool.true_or, if_true]
  | chart => exact absurd rfl other
  | bulletList | dateTime | indicator | gauge | progressBar | table =>
      have bound : hasBinding props = true := bound.resolve_right fun text => by cases text.1
      simp only [Kind.entry, component?, bound, Bool.true_or, if_true]
  | _ => cases reads

section Lists

variable (id : String) (props : Fields) (entry : Option Component)

theorem lists_binding (kind : Kind) (other : kind ≠ .chart)
    (reads : Preview.readsBinding kind = true) (bound : hasBinding props = true)
    (made : kind.entry id props = .ok entry) :
    ∃ component ∈ entry, bindingText props ∈ component.pathTexts := by
  rw [kind.entry_of_bound id props other reads (Or.inl bound)] at made
  rw [← Except.ok.inj made]
  refine ⟨_, rfl, Component.mem_pathTexts_of_text _ _ (paths_of_carried kind id props) _ ?_⟩
  have named : "binding" ∈ kind.carriedNames := by
    rcases Bool.or_eq_true_iff.mp reads with carried | chart
    · exact List.contains_iff_mem.mp carried
    · exact absurd (beq_iff_eq.mp chart) other
  obtain ⟨present, text⟩ := bindingText_of_hasBinding props bound
  apply List.mem_append_left
  rw [Component.bindingPaths, get_withCondition _ _ _ (by decide), get_carried _ _ _ named,
    Component.givenPath, if_pos present, text]
  exact List.mem_singleton_self _

theorem lists_marker (s path : String) (own : props.get "text" = .text s)
    (read : path ∈ Marker.paths s) (made : Kind.text.entry id props = .ok entry) :
    ∃ component ∈ entry, path ∈ component.pathTexts := by
  have marked : Marker.occursIn (.text s) = true := by
    by_contra plain
    rw [Marker.paths_of_not_occursIn s (Bool.eq_false_iff.mpr plain)] at read
    cases read
  rw [Kind.text.entry_of_bound id props (by decide) rfl (Or.inr ⟨rfl, own ▸ marked⟩)] at made
  rw [← Except.ok.inj made]
  refine ⟨_, rfl, Component.mem_pathTexts_of_text _ _ (paths_of_carried .text id props) _ ?_⟩
  have kept : (withCondition props (carried Kind.text.carriedNames props)).get "text" = .text s := by
    rw [get_withCondition _ _ _ (by decide), get_carried _ _ _ (by decide), own]
  apply List.mem_append_right
  rw [Component.textPaths, kept, if_pos marked]
  exact List.mem_map_of_mem read

/-- A chart lists its binding, the markers of its title, and the bindings of its datasets. -/
theorem lists_chart (made : Kind.chart.entry id props = .ok entry) :
    ∃ component ∈ entry,
      ((props.get "binding").isPresent = true → (props.get "binding").plain ∈ component.pathTexts) ∧
      (∀ s, props.get "title" = .text s → ∀ path ∈ Marker.paths s, path ∈ component.pathTexts) ∧
      ∀ items, Chart.datasets props = .ok items → ∀ own, .object own ∈ items →
        (Fields.get own "binding").isPresent = true →
          (Fields.get own "binding").plain ∈ component.pathTexts := by
  obtain ⟨component, built, rfl⟩ := (Attempt.map_eq_ok_iff _ _ _).mp made
  obtain ⟨given, listed, paths⟩ := Chart.component_paths id props component built
  refine ⟨component, rfl, ?_, ?_, ?_⟩
  · intro present
    refine component.mem_pathTexts _ paths _ (List.mem_append_left _ (List.mem_append_left _ ?_))
    rw [Component.givenPath, if_pos present]
    exact List.mem_singleton_self _
  · intro s own path read
    refine component.mem_pathTexts_of_text _ paths _ (List.mem_append_left _ (List.mem_append_right _ ?_))
    rw [own]
    exact List.mem_map_of_mem read
  · intro items others own member present
    obtain rfl := Except.ok.inj (listed.symm.trans others)
    refine component.mem_pathTexts _ paths _ (List.mem_append_right _ ?_)
    refine List.mem_flatMap.mpr ⟨_, member, ?_⟩
    rw [Component.datasetBindings, Component.givenPath, if_pos present]
    exact List.mem_singleton_self _

end Lists

end Widget

namespace Preview

section Entered

variable (first second : Value) (id : String) (props : Fields) (entry : Option Component)
  (alike : ∀ component ∈ entry, ∀ path ∈ component.pathTexts, Path.AnswersAlike first second path)
include alike

-- What is given comes before the defaults, so that the entry lists it.
theorem answersAlike_binding (kind : Kind) (reads : readsBinding kind = true)
    (bound : hasBinding props = true)
    (made : kind.entry id (resolve kind.defaults props) = .ok entry) :
    Path.AnswersAlike first second (bindingText props) := by
  obtain ⟨present, text⟩ := bindingText_of_hasBinding props bound
  have kept := get_resolve_of_given kind.defaults props "binding" (isNull_of_isPresent _ present)
  by_cases chart : kind = .chart
  · subst chart
    obtain ⟨component, member, own, _⟩ := lists_chart id _ entry made
    rw [kept] at own
    have same : Path.resolve (props.get "binding").plain second =
        Path.resolve (props.get "binding").plain first := alike component member _ (own present)
    have solid : Text.trim (props.get "binding").plain ≠ "" := by
      rw [← text]
      exact bne_iff_ne.mp bound
    rw [Path.AnswersAlike, text, Path.resolve_trim _ _ solid, Path.resolve_trim _ _ solid, same]
  · have read : bindingText (resolve kind.defaults props) = bindingText props := by
      rw [bindingText, bindingText, kept]
    have again : hasBinding (resolve kind.defaults props) = true := by
      rw [hasBinding, read]
      exact bound
    obtain ⟨component, member, listed⟩ := lists_binding id _ entry kind chart reads again made
    rw [read] at listed
    exact alike component member _ listed

theorem answersAlike_datasets
    (made : Kind.chart.entry id (resolve Chart.defaults props) = .ok entry) (items : List Value)
    (listed : (props.get "datasets").items? = .ok items) (own : Fields)
    (inside : .object own ∈ items) (s : String) (binding : own.get "binding" = .text s) :
    Path.AnswersAlike first second s := by
  by_cases empty : s = ""
  · rw [empty, Path.AnswersAlike, Path.resolve_empty, Path.resolve_empty]
  · obtain ⟨component, member, _, _, datasets⟩ := lists_chart id _ entry made
    have present := isPresent_of_mem_items _ items _ listed inside
    have kept := get_resolve_of_given Chart.defaults props "datasets"
      (isNull_of_isPresent _ present)
    have whole : Chart.datasets (resolve Chart.defaults props) = .ok items := by
      rw [Chart.datasets, kept]
      simp only [present, if_true, listed]
    have bound : (Fields.get own "binding").isPresent = true := by
      rw [binding]
      exact bne_iff_ne.mpr empty
    have written := datasets items whole own inside bound
    rw [binding, Value.plain] at written
    exact alike component member s written

/-- Data that answers alike to the paths of a widget's entry does so to all that binding the widget asks. -/
theorem agree_of_entry (kind : Kind)
    (made : kind.entry id (resolve kind.defaults props) = .ok entry) :
    Agree first second kind props := by
  have texts : ∀ name s, props.get name = .text s →
      (resolve kind.defaults props).get name = .text s := by
    intro name s own
    rw [get_resolve_of_given kind.defaults props name (by rw [own]; rfl), own]
  refine ⟨?_, ?_, ?_, ?_⟩
  · intro reads
    by_cases bound : hasBinding props = true
    · exact answersAlike_binding first second id props entry alike kind reads bound made
    · have nothing : bindingText props = "" := by simpa [hasBinding] using bound
      rw [nothing, Path.AnswersAlike, Path.resolve_empty, Path.resolve_empty]
  · rintro rfl s own path read
    obtain ⟨component, member, listed⟩ :=
      lists_marker id _ entry s path (texts "text" s own) read made
    exact alike component member path listed
  · rintro rfl s own path read
    obtain ⟨component, member, _, titles, _⟩ := lists_chart id _ entry made
    exact alike component member path (titles s (texts "title" s own) path read)
  · rintro rfl
    exact answersAlike_datasets first second id props entry alike made

end Entered

end Preview

end ReportCompiler
