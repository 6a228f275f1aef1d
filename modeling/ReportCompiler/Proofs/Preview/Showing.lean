import ReportCompiler.Proofs.Compile.ChartPaths
import ReportCompiler.Proofs.Condition.Evaluable
import ReportCompiler.Proofs.Number.Reading
import ReportCompiler.Proofs.Preview.Readable
import ReportCompiler.Proofs.Widget.Drawable

/-!
Which data can be shown. Once data has been filled in, only a date and a measure can stop a widget from being
drawn that can be drawn without data: a date, where the pattern is no text, and a measure that has no share.
-/

namespace ReportCompiler

open ReportCompiler.Widget

/-! ### Numbers in data -/

theorem Number.isNaN_ofLeading? (text : String) (n : Number) (read : ofLeading? text = some n) :
    n.isNaN = false := by
  obtain ⟨parts, _, same⟩ := Option.map_eq_some_iff.mp read
  have double : (parts.toDouble (Reader.takeSign (Text.trimLeft text.toList)).1).isNaN = false :=
    Double.isNaN_ofDecimal _ _ _
  rw [← same]
  simp only
  split
  · split
    · exact double
    · rfl
  · exact double

/-- The number in a value is the number in itself. -/
theorem Value.number?_number (value : Value) (n : Number) (read : value.number? = some n) :
    (Value.number n).number? = some n := by
  have number : n.isNaN = false := by
    cases value with
    | number m =>
        rw [number?, Option.ite_none_left_eq_some, Option.some_inj] at read
        exact read.2 ▸ Bool.eq_false_iff.mpr read.1
    | text s => exact Number.isNaN_ofLeading? s n read
    | _ => cases read
  rw [number?, number, if_neg Bool.false_ne_true]

namespace Preview

variable (props : Fields) (data : Value)

/-- The number that a measure is bound to has a share of the range between its bounds. -/
def MeasureCanBeShown (defaults : Fields) : Prop :=
  ∀ value, boundValue props data = .ok value → ∀ n, value.number? = some n →
    Measure.HasShare { Measure.ofProps (resolve defaults props) with value := n }

/-- A date is shown by a pattern that is text. -/
def DateCanBeShown : Prop :=
  ∀ value, boundValue props data = .ok value → value.moment?.isSome = true →
    ∃ s, Value.datePattern ((resolve DateTime.defaults props).get "format")
      ((resolve DateTime.defaults props).get "customFormat") = .ok (.text s)

/-- What the data holds for a widget can be drawn. -/
def CanBeShown : Kind → Prop
  | .dateTime => DateCanBeShown props data
  | .gauge => MeasureCanBeShown props data Gauge.defaults
  | .progressBar => MeasureCanBeShown props data ProgressBar.defaults
  | _ => True

/-! ### Drawing with data -/

section Drawing

variable (id : String) (change : Change)

theorem table_draws (made : bindTable props data = .ok change)
    (static : Attempt.Succeeds (Table.draw id (resolve Table.defaults props))) :
    Attempt.Succeeds (Table.draw id (resolve Table.defaults (change.getD props))) := by
  obtain ⟨value, _, rest⟩ := (Attempt.bind_eq_ok_iff _ _ _).mp made
  split at rest <;> obtain rfl := (Attempt.pure_eq_ok_iff _ _).mp rest
  · next rows _ =>
      rw [Table.draw_succeeds_iff] at static ⊢
      rw [Option.getD_some, get_resolve_set_of_ne _ _ _ _ "columns" (by decide),
        get_resolve_set_self _ _ _ _ rfl]
      exact ⟨static.1, Or.inl ⟨rows, rfl⟩⟩
  · exact static

theorem date_draws_iff (now : Moment) (made : bindDate props data = .ok change)
    (static : Attempt.Succeeds (DateTime.draw now id (resolve DateTime.defaults props))) :
    Attempt.Succeeds (DateTime.draw now id (resolve DateTime.defaults (change.getD props))) ↔
      DateCanBeShown props data := by
  obtain ⟨value, found, rest⟩ := (Attempt.bind_eq_ok_iff _ _ _).mp made
  simp only [DateCanBeShown, found, Except.ok.injEq, forall_eq']
  split at rest <;> obtain rfl := (Attempt.pure_eq_ok_iff _ _).mp rest
  · exact iff_of_true static fun impossible => by cases impossible
  · next given =>
      obtain ⟨pattern, read, _⟩ := (DateTime.draw_succeeds_iff now id _).mp static
      have stated : value.isNull = false := by
        cases value with
        | null => exact absurd rfl given
        | _ => rfl
      rw [DateTime.draw_succeeds_iff, Option.getD_some, get_resolve_set_of_ne _ _ _ _ "format" (by decide),
        get_resolve_set_of_ne _ _ _ _ "customFormat" (by decide), get_resolve_set_self _ _ _ _ stated, read]
      simp only [Except.ok.injEq, exists_eq_left', stated, true_and]
      cases value.moment? <;> simp

/-- A measure keeps its bounds, and its own value where the data has no number for it. -/
theorem bindMeasure_cases (defaults : Fields) (made : bindMeasure props data = .ok change) :
    change = none ∧ MeasureCanBeShown props data defaults ∨
      ∃ n, change = some (props.set "value" (.number n)) ∧
        (MeasureCanBeShown props data defaults ↔
          (Measure.ofProps (resolve defaults (props.set "value" (.number n)))).HasShare) := by
  obtain ⟨value, found, rest⟩ := (Attempt.bind_eq_ok_iff _ _ _).mp made
  obtain rfl := (Attempt.pure_eq_ok_iff _ _).mp rest
  simp only [MeasureCanBeShown, found, Except.ok.injEq, forall_eq']
  cases read : value.number? with
  | none => exact Or.inl ⟨rfl, fun n impossible => by cases impossible⟩
  | some n =>
      refine Or.inr ⟨n, rfl, ?_⟩
      simp only [Option.some.injEq, forall_eq', Measure.ofProps,
        get_resolve_set_of_ne _ _ _ _ "min" (by decide : "min" ≠ "value"),
        get_resolve_set_of_ne _ _ _ _ "max" (by decide : "max" ≠ "value"),
        get_resolve_set_self _ _ _ (.number n) rfl, Value.number?_number value n read, Option.getD_some]

theorem gauge_draws_iff (made : bindMeasure props data = .ok change)
    (static : Attempt.Succeeds (Gauge.draw id (resolve Gauge.defaults props))) :
    Attempt.Succeeds (Gauge.draw id (resolve Gauge.defaults (change.getD props))) ↔
      MeasureCanBeShown props data Gauge.defaults := by
  rcases bindMeasure_cases props data change Gauge.defaults made with ⟨rfl, shown⟩ | ⟨n, rfl, shown⟩
  · exact iff_of_true static shown
  · rw [shown]
    exact Gauge.draw_succeeds_iff id _ _ (get_resolve_set_of_ne _ _ _ _ "width" (by decide))
      (get_resolve_set_of_ne _ _ _ _ "height" (by decide)) static

theorem progressBar_draws_iff (made : bindMeasure props data = .ok change)
    (static : Attempt.Succeeds (ProgressBar.draw id (resolve ProgressBar.defaults props))) :
    Attempt.Succeeds (ProgressBar.draw id (resolve ProgressBar.defaults (change.getD props))) ↔
      MeasureCanBeShown props data ProgressBar.defaults := by
  rcases bindMeasure_cases props data change ProgressBar.defaults made with
    ⟨rfl, shown⟩ | ⟨n, rfl, shown⟩
  · exact iff_of_true static shown
  · rw [shown]
    exact ProgressBar.draw_succeeds_iff id _

end Drawing

/-! ### Charts with data -/

/-- The bound dataset differs in its points at most. -/
def KeepsSettings (dataset bound : Value) : Prop :=
  ∃ own filled : Fields, dataset = .object own ∧ bound = .object filled ∧
    ∀ name, name ≠ "dataPoints" → filled.get name = own.get name

theorem bindDatasets_keeps (labels after items bound : List Value)
    (made : bindDatasets data labels items = .ok (bound, after)) : List.Forall₂ KeepsSettings items bound := by
  induction items generalizing labels bound with
  | nil =>
      obtain ⟨rfl, _⟩ := Prod.mk.inj (Except.ok.inj made)
      exact .nil
  | cons dataset rest ih =>
      obtain ⟨first, between, others, one, several, rfl⟩ :=
        bindDatasets_cons data labels after dataset rest bound made
      obtain ⟨own, rfl, changed⟩ := bindDataset_cases data labels between dataset first one
      refine .cons ?_ (ih between others several)
      rcases changed with ⟨_, rfl, _⟩ | ⟨series, _, rfl, _⟩
      · exact ⟨own, own, rfl, rfl, fun _ _ => rfl⟩
      · exact ⟨own, _, rfl, rfl, fun name other => Fields.get_set_of_ne own _ name _ other⟩

-- No colour comes from the points, wherever in the list the dataset stands.
theorem areDrawable_of_keeps (items bound : List Value) (keeps : List.Forall₂ KeepsSettings items bound)
    (drawable : Chart.AreDrawable items) : Chart.AreDrawable bound := by
  unfold Chart.AreDrawable at *
  generalize 0 = start at *
  induction keeps generalizing start with
  | nil => simp
  | cons kept _ ih =>
      rw [List.zipIdx_cons, List.forall_mem_cons] at drawable ⊢
      refine ⟨?_, ih (start + 1) drawable.2⟩
      obtain ⟨own, filled, rfl, rfl, same⟩ := kept
      obtain ⟨_, object, fill⟩ := drawable.1
      obtain rfl := Value.object.inj object
      refine ⟨filled, rfl, ?_⟩
      rw [Chart.HasFill, same "backgroundColor" (by decide), same "color" (by decide)]
      exact fill

theorem chart_enters (id : String) (chart : Fields) (made : bindChart props data = .ok chart)
    (static : Attempt.Succeeds (Chart.component id (resolve Chart.defaults props))) :
    Attempt.Succeeds (Chart.component id (resolve Chart.defaults chart)) := by
  rw [Chart.component_succeeds_iff] at static ⊢
  obtain ⟨titled, title, series⟩ := bindChart_cases props data chart made
  rcases series with ⟨items, bound, labels, list, some_, several, rfl⟩ | ⟨_, series?, _, rfl⟩
  · have given : (resolve Chart.defaults props).get "datasets" = .list items := by
      rw [get_resolve_of_given _ _ _ (by rw [list]; rfl), list]
    have filled : (withLabels labels (titled.set "datasets" (.list bound))).get "datasets" = .list bound := by
      rw [get_withLabels _ _ _ (by decide), Fields.get_set_self]
    rw [given] at static
    obtain ⟨_, same, drawable⟩ := static (by simpa [Value.isPresent] using some_)
    obtain rfl := Value.list.inj same
    refine fun _ => ⟨bound, ?_, areDrawable_of_keeps items bound
      (bindDatasets_keeps data [] labels items bound several) drawable⟩
    rw [get_resolve_of_given _ _ _ (by rw [filled]; rfl), filled]
  · have others := without_boundTitle props data soleNames titled (by decide) title
    have kept : ∀ chart, Fields.without soleNames chart = Fields.without soleNames titled →
        (resolve Chart.defaults chart).get "datasets" = (resolve Chart.defaults props).get "datasets" :=
      fun chart same => get_resolve_of_without Chart.defaults props chart soleNames (same.trans others)
        "datasets" (by decide)
    cases series? with
    | none => rw [kept titled rfl]; exact static
    | some series =>
        rw [kept _ (by rw [without_withLabels _ _ _ (by decide), Fields.without_set _ _ _ _ (by decide)])]
        exact static

/-! ### All widgets -/

theorem isHidden_of_change (kind : Kind) (change : Change) (made : bindKind props data kind = .ok change) :
    isHidden (resolve kind.defaults (change.getD props)) = isHidden (resolve kind.defaults props) :=
  isHidden_congr _ _ (get_resolve_of_without kind.defaults props _ filledNames
    (bindKind_fills props data kind change made).without_eq "visible" (by decide))

/-- Where a widget can be rendered without data, it can be with the data filled in just when that can be
shown. -/
theorem render_change_succeeds_iff (kind : Kind) (now : Moment) (id : String) (change : Change)
    (made : bindKind props data kind = .ok change)
    (static : Attempt.Succeeds (kind.renderer.render now id props)) :
    Attempt.Succeeds (kind.renderer.render now id (change.getD props)) ↔
      (isHidden (resolve kind.defaults props) = false → CanBeShown props data kind) := by
  rw [Kind.render_succeeds_iff, isHidden_of_change props data kind change made]
  rw [Kind.render_succeeds_iff] at static
  refine forall_congr' fun seen => ?_
  obtain ⟨drawn, entered⟩ := static seen
  cases kind with
  | table =>
      exact iff_of_true ⟨table_draws props data id change made drawn, Attempt.succeeds_ok _⟩ trivial
  | dateTime =>
      rw [and_iff_left (Kind.entry_succeeds _ (by decide) id _)]
      exact date_draws_iff props data id change now made drawn
  | gauge =>
      rw [and_iff_left (Kind.entry_succeeds _ (by decide) id _)]
      exact gauge_draws_iff props data id change made drawn
  | progressBar =>
      rw [and_iff_left (Kind.entry_succeeds _ (by decide) id _)]
      exact progressBar_draws_iff props data id change made drawn
  | chart =>
      obtain ⟨chart, own, rfl⟩ := (Attempt.map_eq_ok_iff _ _ _).mp made
      have built := chart_enters props data id chart own ((Attempt.succeeds_map_iff _ _).mp entered)
      exact iff_of_true ⟨Attempt.succeeds_ok _, (Attempt.succeeds_map_iff _ _).mpr built⟩ trivial
  | _ => exact iff_of_true ⟨Attempt.succeeds_ok _, Attempt.succeeds_ok _⟩ trivial

-- The mark of a condition that does not hold is no setting that decides over anything.
theorem render_marked_succeeds_iff (kind : Kind) (now : Moment) (id : String) (filled : Fields) :
    Attempt.Succeeds (kind.renderer.render now id (filled.set hiddenByCondition (.bool true))) ↔
      Attempt.Succeeds (kind.renderer.render now id filled) := by
  have gist := kind.gist_congr now id filled (filled.set hiddenByCondition (.bool true)) [hiddenByCondition]
    (Fields.without_set _ _ _ _ (List.mem_singleton_self _)) (by decide)
  rw [← Attempt.succeeds_map_iff Rendered.gist, gist, Attempt.succeeds_map_iff]

theorem isRefused_succeeds_iff (given : data.isNull = false) :
    Attempt.Succeeds (isRefused props data) ↔
      ∀ text, condition? props = some text → Condition.TextCanBeEvaluated text data := by
  unfold isRefused
  cases own : condition? props with
  | none => exact iff_of_true (Attempt.succeeds_ok _) fun text impossible => by cases impossible
  | some text =>
      simp only [Attempt.succeeds_map_iff, Option.some.injEq, forall_eq']
      exact Condition.isMet_succeeds_iff text data given

/-- What has to hold of a widget and the data so that the one can be shown with the other. What a hidden widget
would show does not matter, but its condition is decided and its settings are filled in all the same. -/
structure Takes (kind : Kind) : Prop where
  condition : ∀ text, condition? props = some text → Condition.TextCanBeEvaluated text data
  filled : CanBeFilled props data kind
  shown : isHidden (resolve kind.defaults props) = false → CanBeShown props data kind

theorem render_bound_succeeds_iff (kind : Kind) (now : Moment) (id : String) (given : data.isNull = false)
    (static : Attempt.Succeeds (kind.renderer.render now id props)) :
    Attempt.Succeeds (bound kind props data >>= kind.renderer.render now id) ↔ Takes props data kind := by
  rw [Attempt.succeeds_bind_iff]
  constructor
  · rintro ⟨filled, made, rendered⟩
    obtain ⟨change, refused, ofKind, condition, rfl⟩ := bound_cases props data kind filled given made
    have drawn : Attempt.Succeeds (kind.renderer.render now id (change.getD props)) := by
      cases refused with
      | false => exact rendered
      | true => exact (render_marked_succeeds_iff kind now id _).mp rendered
    exact ⟨(isRefused_succeeds_iff props data given).mp ⟨refused, condition⟩,
      (bindKind_succeeds_iff props data kind given).mp ⟨change, ofKind⟩,
      (render_change_succeeds_iff props data kind now id change ofKind static).mp drawn⟩
  · rintro ⟨condition, filled, shown⟩
    obtain ⟨refused, decided⟩ := (isRefused_succeeds_iff props data given).mpr condition
    obtain ⟨change, ofKind⟩ := (bindKind_succeeds_iff props data kind given).mpr filled
    have drawn := (render_change_succeeds_iff props data kind now id change ofKind static).mpr shown
    refine ⟨_, bound_of_change props data kind change refused given ofKind decided, ?_⟩
    cases refused with
    | false => exact drawn
    | true => exact (render_marked_succeeds_iff kind now id _).mpr drawn

end Preview

end ReportCompiler
