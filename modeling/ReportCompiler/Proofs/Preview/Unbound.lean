import ReportCompiler.Proofs.Preview.Filling
import ReportCompiler.Template.Basic

/-!
Widgets that read no data: no binding, no markers, and no condition that fails. Binding leaves their settings
alone, save that a chart's datasets are written again as they are.
-/

namespace ReportCompiler

open ReportCompiler.Widget

/-- Nothing in the settings of the widget reads the data, and its condition does not fail on it. -/
structure Node.IsUnbound (data : Value) (node : Node) : Prop where
  binding : hasBinding node.props = false
  text : node.type = "Text" → Marker.occursIn (node.props.get "text") = false
  title : node.type = "Chart" → Marker.occursIn (node.props.get "title") = false
  datasets : node.type = "Chart" → ∀ items, node.props.get "datasets" = .list items →
    ∀ own, .object own ∈ items → (Fields.get own "binding").isPresent = false
  condition : Preview.isRefused node.props data ≠ .ok true

namespace Preview

variable (props : Fields) (data : Value)

theorem boundValue_of_unbound (unbound : hasBinding props = false) :
    boundValue props data = .ok .null := by
  have empty : bindingText props = "" := by simpa [hasBinding] using unbound
  rw [boundValue, empty]
  rfl

theorem bindKind_of_unbound (kind : Kind) (change : Change) (other : kind ≠ .chart)
    (unbound : hasBinding props = false)
    (unmarked : kind = .text → Marker.occursIn (props.get "text") = false)
    (bound : bindKind props data kind = .ok change) : change = none := by
  have nothing := boundValue_of_unbound props data unbound
  cases kind with
  | text =>
      have plain := unmarked rfl
      simp only [bindKind, bindText, unbound, Bool.false_eq_true, if_false] at bound
      cases text : props.get "text" with
      | text s =>
          rw [text] at plain bound
          simp only [plain, Bool.false_eq_true, if_false] at bound
          exact (Except.ok.inj bound).symm
      | _ =>
          rw [text] at bound
          exact (Except.ok.inj bound).symm
  | chart => exact absurd rfl other
  | table => rw [bindKind, bindTable, nothing] at bound; exact (Except.ok.inj bound).symm
  | bulletList => rw [bindKind, bindBulletList, nothing] at bound; exact (Except.ok.inj bound).symm
  | indicator => rw [bindKind, bindIndicator, nothing] at bound; exact (Except.ok.inj bound).symm
  | gauge => rw [bindKind, bindMeasure, nothing] at bound; exact (Except.ok.inj bound).symm
  | progressBar => rw [bindKind, bindMeasure, nothing] at bound; exact (Except.ok.inj bound).symm
  | dateTime => rw [bindKind, bindDate, nothing] at bound; exact (Except.ok.inj bound).symm
  | _ => exact (Except.ok.inj bound).symm

/-! ### Charts -/

theorem boundTitle_of_unbound (titled : Fields)
    (unmarked : Marker.occursIn (props.get "title") = false)
    (bound : boundTitle props data = .ok titled) : titled = props := by
  rcases boundTitle_cases props data titled bound with ⟨same, _⟩ | ⟨s, _, title, marked, _⟩
  · exact same
  · rw [title, marked] at unmarked
    cases unmarked

theorem bindDatasets_of_unbound (labels after items bound : List Value)
    (unbound : ∀ own, .object own ∈ items → (Fields.get own "binding").isPresent = false)
    (made : bindDatasets data labels items = .ok (bound, after)) :
    bound = items ∧ after = labels := by
  induction items generalizing labels bound with
  | nil =>
      obtain ⟨rfl, rfl⟩ := Prod.mk.inj (Except.ok.inj made)
      exact ⟨rfl, rfl⟩
  | cons dataset rest ih =>
      obtain ⟨first, between, others, one, several, rfl⟩ :=
        bindDatasets_cons data labels after dataset rest bound made
      obtain ⟨own, rfl, kept⟩ := bindDataset_cases data labels between dataset first one
      have none_ : datasetSeries own data = .ok none := by
        rw [datasetSeries, unbound own List.mem_cons_self]
        rfl
      rcases kept with ⟨_, rfl, rfl⟩ | ⟨series, found, _⟩
      · obtain ⟨rfl, rfl⟩ :=
          ih between others (fun own member => unbound own (List.mem_cons_of_mem _ member)) several
        exact ⟨rfl, rfl⟩
      · rw [none_] at found
        cases found

/-- A list of datasets without bindings is written again as it was. -/
theorem bindChart_of_unbound (chart : Fields) (unbound : hasBinding props = false)
    (unmarked : Marker.occursIn (props.get "title") = false)
    (free : ∀ items, props.get "datasets" = .list items →
      ∀ own, .object own ∈ items → (Fields.get own "binding").isPresent = false)
    (made : bindChart props data = .ok chart) :
    chart = props ∨
      (props.get "datasets").isPresent = true ∧
        chart = props.set "datasets" (props.get "datasets") := by
  obtain ⟨titled, title, rest⟩ := bindChart_cases props data chart made
  obtain rfl := boundTitle_of_unbound props data titled unmarked title
  rcases rest with ⟨items, bound, labels, list, filled, several, rfl⟩ | ⟨_, series, found, rfl⟩
  · obtain ⟨rfl, rfl⟩ :=
      bindDatasets_of_unbound data [] labels items bound (free items list) several
    refine Or.inr ⟨?_, by rw [list]; rfl⟩
    rw [list]
    simpa [Value.isPresent] using filled
  · rw [boundValue_of_unbound titled data unbound] at found
    obtain rfl := Except.ok.inj found
    exact Or.inl rfl

/-! ### All widgets -/

/-- A widget that reads no data is bound to its own settings. -/
theorem bound_of_unbound (kind : Kind) (node : Node) (filled : Fields)
    (given : data.isNull = false) (registered : Kind.ofName? node.type = some kind)
    (unbound : node.IsUnbound data) (made : bound kind node.props data = .ok filled) :
    filled = node.props ∨
      kind = .chart ∧ (node.props.get "datasets").isPresent = true ∧
        filled = node.props.set "datasets" (node.props.get "datasets") := by
  have named : node.type = kind.name := (Kind.name_of_ofName? registered).symm
  obtain ⟨change, refused, ofKind, condition, rfl⟩ :=
    bound_cases node.props data kind filled given made
  have accepted : refused = false := by
    cases refused with
    | false => rfl
    | true => exact absurd condition unbound.condition
  rw [accepted, if_neg Bool.false_ne_true]
  by_cases chart : kind = .chart
  · subst chart
    obtain ⟨own, bound, rfl⟩ := (Attempt.map_eq_ok_iff _ _ _).mp ofKind
    rcases bindChart_of_unbound node.props data own unbound.binding (unbound.title named)
      (unbound.datasets named) bound with same | ⟨present, again⟩
    · exact Or.inl same
    · exact Or.inr ⟨rfl, present, again⟩
  · have unmarked : kind = .text → Marker.occursIn (node.props.get "text") = false := by
      rintro rfl
      exact unbound.text named
    rw [bindKind_of_unbound node.props data kind change chart unbound.binding unmarked ofKind]
    exact Or.inl rfl

end Preview

end ReportCompiler
