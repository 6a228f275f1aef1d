import ReportCompiler.Proofs.Value.Fields
import ReportCompiler.Proofs.Widget.Rendering

/-!
Which settings matter for what. Settings that agree on the fields that are asked for are hidden alike,
fail alike and have the same entry, whatever else they hold.
-/

namespace ReportCompiler

namespace Attempt

variable {α β : Type}

/-- The fault that a computation ends in. -/
def fault? : Except Fault α → Option Fault
  | .ok _ => none
  | .error fault => some fault

theorem fault?_bind_pure (x : Except Fault α) (f : α → β) :
    fault? (x >>= fun a => pure (f a)) = fault? x := by
  cases x <;> rfl

theorem fault?_bind_congr (x : Except Fault α) (f g : α → Except Fault β)
    (same : ∀ a, fault? (f a) = fault? (g a)) : fault? (x >>= f) = fault? (x >>= g) := by
  cases x with
  | error fault => rfl
  | ok a => exact same a

end Attempt

namespace Widget

/-! ### Settings with defaults -/

theorem get_resolve_of_without (defaults given others : Fields) (names : List String)
    (same : Fields.without names others = Fields.without names given) (name : String)
    (kept : name ∉ names) :
    (resolve defaults others).get name = (resolve defaults given).get name := by
  rw [← Fields.get_without names _ name kept,
    ← Fields.get_without names (resolve defaults given) name kept]
  simp only [resolve, Fields.without_append, Fields.without_withoutNulls, same]

/-- A value that is given comes before every default. -/
theorem get_resolve_of_given (defaults given : Fields) (name : String)
    (stated : (given.get name).isNull = false) :
    (resolve defaults given).get name = given.get name := by
  rw [resolve, List.append_assoc]
  exact Fields.get_withoutNulls_append given _ name stated

theorem get_resolve_set_self (defaults given : Fields) (name : String) (value : Value)
    (stated : value.isNull = false) : (resolve defaults (given.set name value)).get name = value := by
  have set : (given.set name value).get name = value := Fields.get_set_self given name value
  rw [get_resolve_of_given _ _ _ (by rw [set, stated]), set]

theorem get_resolve_set_of_ne (defaults given : Fields) (key : String) (value : Value) (name : String)
    (other : name ≠ key) :
    (resolve defaults (given.set key value)).get name = (resolve defaults given).get name :=
  get_resolve_of_without defaults given _ [key]
    (Fields.without_set [key] given key value (List.mem_singleton_self key)) name (by simpa using other)

theorem isHidden_congr (props others : Fields)
    (same : others.get "visible" = props.get "visible") : isHidden others = isHidden props := by
  unfold isHidden
  rw [same]

/-! ### Entries -/

theorem condition?_eq_some_iff (props : Fields) (condition : String) :
    condition? props = some condition ↔
      props.get "visibilityCondition" = .text condition ∧ Text.isBlankText condition = false := by
  unfold condition?
  cases props.get "visibilityCondition" with
  | text s =>
      simp only [Value.text.injEq]
      by_cases blank : Text.isBlankText s = true
      · rw [if_pos blank]
        refine ⟨fun impossible => (by cases impossible), ?_⟩
        rintro ⟨rfl, solid⟩
        rw [blank] at solid
        cases solid
      · rw [if_neg blank, Option.some.injEq]
        refine ⟨?_, And.left⟩
        rintro rfl
        exact ⟨rfl, Bool.eq_false_iff.mpr blank⟩
  | _ => simp

theorem get_carried (names : List String) (props : Fields) (name : String) (listed : name ∈ names) :
    (carried names props).get name = props.get name := by
  induction names with
  | nil => cases listed
  | cons other rest ih =>
      rw [carried, List.map_cons, Fields.get_cons]
      split
      · next same => rw [same]
      · next different => exact ih (List.mem_of_ne_of_mem different listed)

theorem map_fst_carried (names : List String) (props : Fields) :
    (carried names props).map Prod.fst = names := by
  simp [carried, Function.comp_def]

-- The condition comes last, under a name of its own.
theorem get_withCondition (props entries : Fields) (name : String)
    (other : name ≠ "visibilityCondition") :
    (withCondition props entries).get name = entries.get name := by
  unfold withCondition
  split
  · rw [Fields.get_append]
    split
    · rfl
    · next absent =>
        rw [Fields.get_cons_of_ne other, Fields.get_nil, Fields.get_of_not_mem entries name absent]
  · rfl

theorem get_withCondition_self (props entries : Fields) (condition : String)
    (given : condition? props = some condition)
    (free : "visibilityCondition" ∉ entries.map Prod.fst) :
    (withCondition props entries).get "visibilityCondition" = .text condition := by
  rw [withCondition, given]
  simp only
  rw [Fields.get_append, if_neg free, Fields.get_cons_self]

theorem condition?_congr (props others : Fields)
    (same : others.get "visibilityCondition" = props.get "visibilityCondition") :
    condition? others = condition? props := by
  unfold condition?
  rw [same]

namespace Chart

/-- The settings that the entry of a chart is made of. -/
def entryNames : List String :=
  ["chartType", "enableMultiAxis", "title", "label", "labels", "dataPoints", "binding",
    "backgroundColor", "borderColor", "datasets", "visibilityCondition"]

section Congruence

variable (props others : Fields) (same : ∀ name ∈ entryNames, others.get name = props.get name)
include same

theorem chartType_congr : chartType others = chartType props := by
  simp only [chartType, same "chartType" (by decide)]

theorem hasTwoAxes_congr : hasTwoAxes others = hasTwoAxes props := by
  simp only [hasTwoAxes, same "enableMultiAxis" (by decide)]

theorem datasets_congr : datasets others = datasets props := by
  simp only [datasets, same "datasets" (by decide)]

theorem labels_congr : labels others = labels props := by
  have first : firstDataset? others = firstDataset? props := by
    unfold firstDataset?
    rw [same "datasets" (by decide)]
  simp only [labels, leadingPoints, first, same "dataPoints" (by decide), same "labels" (by decide)]

theorem builtDatasets_congr : builtDatasets others = builtDatasets props := by
  have sole : soleDataset others = soleDataset props := by
    simp only [soleDataset, chartType_congr props others same, same "dataPoints" (by decide),
      same "label" (by decide), same "binding" (by decide), same "backgroundColor" (by decide),
      same "borderColor" (by decide)]
  have each : dataset others = dataset props := by
    funext index value
    simp only [dataset, chartType_congr props others same, hasTwoAxes_congr props others same]
  simp only [builtDatasets, datasets_congr props others same, sole, each]

theorem options_congr : options others = options props := by
  simp only [options, chartType_congr props others same, hasTwoAxes_congr props others same,
    same "title" (by decide)]

theorem bindings_congr : bindings others = bindings props := by
  simp only [bindings, datasets_congr props others same, same "title" (by decide),
    same "binding" (by decide)]

theorem component_congr (id : String) : component id others = component id props := by
  have condition := condition?_congr props others (same "visibilityCondition" (by decide))
  simp only [component, labels_congr props others same, builtDatasets_congr props others same,
    options_congr props others same, bindings_congr props others same,
    chartType_congr props others same, hasTwoAxes_congr props others same, same "title" (by decide),
    withCondition, condition]

end Congruence

end Chart

/-- The settings that the entries of all kinds are made of. -/
def entryNames : List String :=
  "text" :: Chart.entryNames ++ Kind.all.flatMap Kind.carriedNames

theorem Kind.carriedNames_subset (kind : Kind) : kind.carriedNames ⊆ entryNames := by
  intro name carried
  exact List.mem_append_right _ (List.mem_flatMap.mpr ⟨kind, kind.mem_all, carried⟩)

theorem component?_congr (kind : Kind) (bound : Bool) (id : String) (props others : Fields)
    (same : ∀ name ∈ entryNames, others.get name = props.get name) :
    component? kind kind.carriedNames bound id others =
      component? kind kind.carriedNames bound id props := by
  have condition := condition?_congr props others (same "visibilityCondition" (by decide))
  have settings : carried kind.carriedNames others = carried kind.carriedNames props :=
    List.map_congr_left fun name member => by rw [same name (kind.carriedNames_subset member)]
  simp only [component?, withCondition, condition, settings]

theorem Kind.entry_congr (kind : Kind) (id : String) (props others : Fields)
    (same : ∀ name ∈ entryNames, others.get name = props.get name) :
    kind.entry id others = kind.entry id props := by
  have binding := same "binding" (by decide)
  have bound : hasBinding others = hasBinding props := by
    simp only [hasBinding, bindingText, binding]
  have entered := fun kind bound => component?_congr kind bound id props others same
  cases kind with
  | chart =>
      have chart : ∀ name ∈ Chart.entryNames, others.get name = props.get name :=
        fun name member => same name (List.mem_append_left _ (List.mem_cons_of_mem _ member))
      simp only [Kind.entry, Chart.component_congr props others chart id]
  | pageNumber => rfl
  | text =>
      have text := same "text" (by decide)
      simp only [Kind.entry, FreeText.isBound, bound, text, entered]
  | _ => simp only [Kind.entry, bound, entered]

/-! ### Drawings -/

/-- The settings that a drawing can fail on. -/
def drawnNames : List String :=
  ["format", "customFormat", "value", "min", "max", "width", "height", "data", "columns", "rows"]

theorem Kind.fault?_draw_congr (kind : Kind) (now : Moment) (id : String) (props others : Fields)
    (same : ∀ name ∈ drawnNames, others.get name = props.get name) :
    Attempt.fault? (kind.draw now id others) = Attempt.fault? (kind.draw now id props) := by
  have value := same "value" (by decide)
  have low := same "min" (by decide)
  have high := same "max" (by decide)
  have measure : Measure.ofProps others = Measure.ofProps props := by
    simp only [Measure.ofProps, value, low, high]
  cases kind with
  | dateTime =>
      have format := same "format" (by decide)
      have custom := same "customFormat" (by decide)
      simp only [Kind.draw, DateTime.draw, Attempt.fault?_bind_pure]
      simp only [DateTime.shown, format, custom, value]
  | gauge =>
      have width := same "width" (by decide)
      have height := same "height" (by decide)
      have shape : ∀ percentage, Gauge.geometry percentage others = Gauge.geometry percentage props := by
        intro percentage
        simp only [Gauge.geometry, width, height]
      have middle : ∀ g value, Attempt.fault? (Gauge.middle g value others) =
          Attempt.fault? (Gauge.middle g value props) := by
        intro g value
        refine Attempt.fault?_bind_congr _ _ _ fun large => ?_
        simp only [Attempt.fault?_bind_pure]
      simp only [Kind.draw, Gauge.draw, measure, shape]
      refine Attempt.fault?_bind_congr _ _ _ fun percentage => ?_
      refine Attempt.fault?_bind_congr _ _ _ fun g => ?_
      simp only [Attempt.fault?_bind_pure, middle]
  | progressBar => simp only [Kind.draw, ProgressBar.draw, measure, Attempt.fault?_bind_pure]
  | table =>
      have data := same "data" (by decide)
      have columns := same "columns" (by decide)
      have rows := same "rows" (by decide)
      have content : Table.content others = Table.content props := by
        simp only [Table.content, data, columns, rows]
      simp only [Kind.draw, Table.draw, content, Attempt.fault?_bind_pure]
  | _ => simp only [Kind.draw, Attempt.fault?]

/-! ### Renderings -/

theorem Kind.render_eq (kind : Kind) (now : Moment) (id : String) (given : Fields) :
    kind.renderer.render now id given =
      if isHidden (resolve kind.defaults given) then .ok { html := "", component := none }
      else do
        let markup ← kind.draw now id (resolve kind.defaults given)
        return { html := markup.write, component := ← kind.entry id (resolve kind.defaults given) } := rfl

/-- What a rendering comes to besides its markup: whether there is any, and the entry. -/
def Rendered.gist (result : Rendered) : Bool × Option Component :=
  (result.html == "", result.component)

/-- The settings that decide over a rendering's gist. -/
def decisiveNames : List String := "visible" :: entryNames ++ drawnNames

theorem Kind.gist_render (kind : Kind) (now : Moment) (id : String) (given : Fields) :
    (kind.renderer.render now id given).map Rendered.gist =
      if isHidden (resolve kind.defaults given) then .ok (true, none)
      else
        match Attempt.fault? (kind.draw now id (resolve kind.defaults given)) with
        | some fault => .error fault
        | none => (kind.entry id (resolve kind.defaults given)).map fun entry => (false, entry) := by
  by_cases away : isHidden (resolve kind.defaults given) = true
  · simp only [Renderer.render, Kind.renderer, away, if_true]
    rfl
  · simp only [Renderer.render, Kind.renderer, away, Bool.false_eq_true, if_false]
    cases drawn : kind.draw now id (resolve kind.defaults given) with
    | error fault => rfl
    | ok tree =>
        obtain ⟨style, more, children, rfl, _⟩ := kind.draw_eq_frame now id _ tree drawn
        cases kind.entry id (resolve kind.defaults given) with
        | error fault => rfl
        | ok entry =>
            simp [Attempt.fault?, Except.map, bind, Except.bind, pure, Except.pure, Rendered.gist,
              frame_write_ne_empty]

/-- A widget that is rendered is without markup just when it is hidden, and has the entry of its kind. -/
theorem Kind.gist_of_render (kind : Kind) (now : Moment) (id : String) (given : Fields)
    (result : Rendered) (rendered : kind.renderer.render now id given = .ok result) :
    (result.html == "") = isHidden (resolve kind.defaults given) ∧
      kind.renderer.component id given = .ok result.component := by
  have gist := kind.gist_render now id given
  rw [rendered] at gist
  rw [Kind.component_renderer]
  by_cases away : isHidden (resolve kind.defaults given) = true
  · rw [if_pos away] at gist ⊢
    obtain ⟨empty, none_⟩ := Prod.mk.inj (Except.ok.inj gist)
    exact ⟨empty.trans away.symm, congrArg Except.ok none_.symm⟩
  · rw [if_neg away] at gist ⊢
    split at gist
    · cases gist
    · obtain ⟨made, entered, same⟩ := (Attempt.map_eq_ok_iff _ _ _).mp gist.symm
      obtain ⟨filled, rfl⟩ := Prod.mk.inj same
      exact ⟨filled.symm.trans (Bool.eq_false_iff.mpr away).symm, entered⟩

theorem Kind.gist_congr (kind : Kind) (now : Moment) (id : String) (given others : Fields)
    (names : List String) (same : Fields.without names others = Fields.without names given)
    (apart : ∀ name ∈ decisiveNames, name ∉ names) :
    (kind.renderer.render now id others).map Rendered.gist =
      (kind.renderer.render now id given).map Rendered.gist := by
  have asked : ∀ name ∈ decisiveNames,
      (resolve kind.defaults others).get name = (resolve kind.defaults given).get name :=
    fun name member =>
      get_resolve_of_without kind.defaults given others names same name (apart name member)
  have hidden : isHidden (resolve kind.defaults others) = isHidden (resolve kind.defaults given) :=
    isHidden_congr _ _ (asked "visible" (by decide))
  have entry := kind.entry_congr id (resolve kind.defaults given) (resolve kind.defaults others)
    fun name member => asked name (List.mem_append_left _ (List.mem_cons_of_mem _ member))
  have fault := kind.fault?_draw_congr now id (resolve kind.defaults given)
    (resolve kind.defaults others) fun name member => asked name (List.mem_append_right _ member)
  rw [gist_render, gist_render, hidden, entry, fault]

end Widget

end ReportCompiler
