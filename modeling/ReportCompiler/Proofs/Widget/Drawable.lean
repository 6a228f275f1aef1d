import ReportCompiler.Proofs.Preview.Filling
import ReportCompiler.Proofs.Widget.Settings

/-!
Which widgets can be drawn. Dates, tables and measures have drawings that can fail, and charts have entries that
can; everything else is drawn and entered whatever its settings are.
-/

namespace ReportCompiler

namespace Widget

/-! ### Measures -/

namespace Measure

/-- The share that the value has of the range between its bounds can be worked out: both differences exist, and
so does their quotient. Equal bounds leave nothing to be worked out. -/
def HasShare (m : Measure) : Prop :=
  m.high.same m.low = true ∨
    ∃ above range, m.value.sub m.low = .ok above ∧ m.high.sub m.low = .ok range ∧
      Attempt.Succeeds (above.div range)

theorem percentage_succeeds_iff (m : Measure) : Attempt.Succeeds m.percentage ↔ m.HasShare := by
  unfold percentage HasShare Number.percentage
  split
  · next same => exact iff_of_true (Attempt.succeeds_ok _) (Or.inl same)
  · next apart =>
      rw [or_iff_right apart, Attempt.succeeds_bind_iff]
      refine exists_congr fun above => ?_
      rw [Attempt.succeeds_bind_iff, exists_and_left]
      refine and_congr_right fun _ => exists_congr fun range => and_congr_right fun _ => ?_
      refine Attempt.succeeds_bind_of_forall _ _ fun share => ?_
      dsimp only
      split
      · exact Attempt.succeeds_ok _
      · split <;> exact Attempt.succeeds_ok _

end Measure

theorem ProgressBar.draw_succeeds_iff (id : String) (props : Fields) :
    Attempt.Succeeds (ProgressBar.draw id props) ↔ (Measure.ofProps props).HasShare :=
  (Attempt.succeeds_bind_pure_iff _ _).trans (Measure.percentage_succeeds_iff _)

namespace Gauge

theorem mul_double (n : Number) (x : Double) (product : Number) (made : n.mul (.double x) = .ok product) :
    ∃ y, product = .double y := by
  cases n with
  | int i =>
      obtain ⟨factor, _, rest⟩ := (Attempt.bind_eq_ok_iff _ _ _).mp made
      exact ⟨_, (Except.ok.inj rest).symm⟩
  | double y => exact ⟨_, (Except.ok.inj made).symm⟩

/-- The part of an arc that is filled has a length, whatever part it is. -/
theorem filled_succeeds (arc percentage : Double) :
    Attempt.Succeeds (Number.div (.double (arc.mul percentage)) (.int 100)) := by
  have divisor : (Number.int 100).toDouble = .ok (.ofInt 100) := by decide +kernel
  have solid : (Double.ofInt 100).isZero = false := by decide +kernel
  simp only [Number.div, divisor, Attempt.ok_bind, solid, Bool.false_eq_true, if_false]
  exact Attempt.succeeds_ok _

-- All lengths in the drawing come from its size, but that of the filled part, which cannot fail.
theorem exists_geometry (first second : Double) (props : Fields) (g : Geometry)
    (made : geometry first props = .ok g) :
    ∃ other, geometry second props = .ok other ∧ other.size = g.size := by
  obtain ⟨free, narrow, rest⟩ := (Attempt.bind_eq_ok_iff _ _ _).mp made
  obtain ⟨half, halved, rest⟩ := (Attempt.bind_eq_ok_iff _ _ _).mp rest
  obtain ⟨inner, inside, rest⟩ := (Attempt.bind_eq_ok_iff _ _ _).mp rest
  obtain ⟨circumference, round, rest⟩ := (Attempt.bind_eq_ok_iff _ _ _).mp rest
  obtain ⟨arc, part, rest⟩ := (Attempt.bind_eq_ok_iff _ _ _).mp rest
  obtain ⟨product, _, rest⟩ := (Attempt.bind_eq_ok_iff _ _ _).mp rest
  obtain ⟨_, _, whole⟩ := (Attempt.bind_eq_ok_iff _ _ _).mp rest
  obtain ⟨length, rfl⟩ := mul_double _ _ arc part
  obtain ⟨filled, fills⟩ := filled_succeeds length second
  have multiplied : (Number.double length).mul (.double second) = .ok (.double (length.mul second)) := rfl
  rw [← (Attempt.pure_eq_ok_iff _ _).mp whole]
  refine ⟨{ size := Number.max free (.int 0), center := .double half,
            radius := Number.max inner (.int 0), circumference, arc := .double length,
            filled := .double filled }, ?_, rfl⟩
  simp only [geometry, narrow, halved, inside, round, part, multiplied, fills, Attempt.ok_bind]
  rfl

theorem middle_succeeds_congr (g other : Geometry) (value otherValue : Number) (props others : Fields)
    (same : other.size = g.size) (drawn : Attempt.Succeeds (middle g value props)) :
    Attempt.Succeeds (middle other otherValue others) := by
  obtain ⟨large, enlarged, rest⟩ := (Attempt.succeeds_bind_iff _ _).mp drawn
  obtain ⟨small, reduced, _⟩ := (Attempt.succeeds_bind_iff _ _).mp rest
  simp only [middle, same, enlarged, reduced, Attempt.ok_bind]
  exact Attempt.succeeds_ok _

/-- A gauge that can be drawn can be drawn with another measure, as long as that has a share. -/
theorem draw_succeeds_iff (id : String) (props others : Fields)
    (width : others.get "width" = props.get "width") (height : others.get "height" = props.get "height")
    (drawn : Attempt.Succeeds (draw id props)) :
    Attempt.Succeeds (draw id others) ↔ (Measure.ofProps others).HasShare := by
  obtain ⟨percentage, _, rest⟩ := (Attempt.succeeds_bind_iff _ _).mp drawn
  obtain ⟨g, made, rest⟩ := (Attempt.succeeds_bind_iff _ _).mp rest
  obtain ⟨inside, shown, _⟩ := (Attempt.succeeds_bind_iff _ _).mp rest
  rw [← Measure.percentage_succeeds_iff]
  refine Attempt.succeeds_bind_of_forall _ _ fun second => ?_
  obtain ⟨other, otherMade, same⟩ := exists_geometry percentage second props g made
  have shape : geometry second others = geometry second props := by
    simp only [geometry, width, height]
  rw [shape, otherMade, Attempt.ok_bind, Attempt.succeeds_bind_pure_iff]
  exact middle_succeeds_congr g other _ _ props others same ⟨inside, shown⟩

end Gauge

/-! ### Dates -/

/-- A date can be shown by a text as its pattern only. Where the value is no date, no pattern is used. -/
theorem DateTime.draw_succeeds_iff (now : Moment) (id : String) (props : Fields) :
    Attempt.Succeeds (DateTime.draw now id props) ↔
      ∃ pattern, Value.datePattern (props.get "format") (props.get "customFormat") = .ok pattern ∧
        ((∃ s, pattern = .text s) ∨ (props.get "value").isNull = false ∧ (props.get "value").moment? = none) := by
  have formats : ∀ (pattern : Value) (m : Moment),
      Attempt.Succeeds (Value.formatMoment pattern m) ↔ ∃ s, pattern = .text s := by
    intro pattern m
    cases pattern <;> simp [Value.formatMoment]
  unfold DateTime.draw shown
  rw [Attempt.succeeds_bind_pure_iff, Attempt.succeeds_bind_iff]
  refine exists_congr fun pattern => and_congr_right fun _ => ?_
  split
  · next missing => simp [formats, missing, Value.isNull]
  · next given =>
      have stated : (props.get "value").isNull = false := by
        cases value : props.get "value" with
        | null => exact absurd value given
        | _ => rfl
      cases read : (props.get "value").moment? with
      | none => simp [stated]
      | some m => simp [formats]

/-! ### Tables -/

/-- A table can be drawn where its columns can be told, and its rows are given or can be counted. -/
theorem Table.draw_succeeds_iff (id : String) (props : Fields) :
    Attempt.Succeeds (Table.draw id props) ↔
      Attempt.Succeeds (Table.definitions (props.get "columns")) ∧
        ((∃ rows, props.get "data" = .list rows) ∨
          Attempt.Succeeds (Table.placeholderCount (props.get "rows"))) := by
  have shown : ∀ rows, Attempt.Succeeds (Table.columns (props.get "columns") rows) ↔
      Attempt.Succeeds (Table.definitions (props.get "columns")) := by
    intro rows
    refine Attempt.succeeds_bind_of_forall _ _ fun definitions => ?_
    dsimp only
    split <;> exact Attempt.succeeds_pure _
  unfold Table.draw
  rw [Attempt.succeeds_bind_pure_iff, Table.content]
  split
  · next rows data =>
      rw [Attempt.succeeds_bind_pure_iff, shown]
      simp [data]
  · next other =>
      have none_ : ¬ ∃ rows, props.get "data" = .list rows := not_exists.mpr other
      rw [or_iff_right none_, ← shown []]
      exact Attempt.succeeds_bind_iff_and _ _ _ fun columns => Attempt.succeeds_bind_pure_iff _ _

/-! ### Charts -/

namespace Chart

/-- The points of the dataset at this place have a colour below them: one that is given, or the softer one of
the line, which must be text for that. -/
def HasFill (index : Nat) (own : Fields) : Prop :=
  (own.get "backgroundColor").isPresent = true ∨
    Attempt.Succeeds (softened ((own.get "color").orElse (.text (colors.getD (index % colors.length) ""))))

theorem dataset_succeeds_iff (props : Fields) (index : Nat) (value : Value) :
    Attempt.Succeeds (dataset props index value) ↔ ∃ own, value = .object own ∧ HasFill index own := by
  cases value with
  | object own =>
      simp only [dataset, Value.fields?, Attempt.ok_bind, Value.object.injEq, exists_eq_left', HasFill,
        Attempt.bind_ite, Attempt.succeeds_bind_pure_iff]
      split
      · next present => exact iff_of_true (Attempt.succeeds_pure _) (Or.inl present)
      · next absent => exact (or_iff_right absent).symm
  | _ => simp [dataset, Value.fields?, Attempt.error_bind]

/-- Every dataset in the list is an object with a colour below its points. -/
def AreDrawable (items : List Value) : Prop :=
  ∀ entry ∈ items.zipIdx, ∃ own, entry.1 = .object own ∧ HasFill entry.2 own

theorem AreDrawable.objects (items : List Value) (drawable : AreDrawable items) :
    ∀ item ∈ items, ∃ own, item = .object own := by
  intro item member
  rw [← List.zipIdx_map_fst 0 items] at member
  obtain ⟨entry, inside, rfl⟩ := List.mem_map.mp member
  exact (drawable entry inside).imp fun own both => both.1

theorem labels_succeeds_iff (props : Fields) :
    Attempt.Succeeds (labels props) ↔ Attempt.Succeeds (firstDataset? props) :=
  (Attempt.succeeds_bind_pure_iff _ _).trans (Attempt.succeeds_bind_pure_iff _ _)

theorem firstDataset?_of_absent (props : Fields) (absent : (props.get "datasets").isPresent = false) :
    firstDataset? props = .ok none := by
  unfold firstDataset?
  cases value : props.get "datasets" with
  | list items =>
      rw [value] at absent
      cases items with
      | nil => rfl
      | cons => cases absent
  | object fields =>
      rw [value] at absent
      cases fields with
      | nil => rfl
      | cons => cases absent
  | text s =>
      rw [value] at absent
      obtain rfl : s = "" := by simpa [Value.isPresent] using absent
      rfl
  | _ =>
      rw [value] at absent
      simp [absent]

theorem firstDataset?_of_list (props : Fields) (items : List Value)
    (list : props.get "datasets" = .list items) (objects : ∀ item ∈ items, ∃ own, item = .object own) :
    Attempt.Succeeds (firstDataset? props) := by
  rw [firstDataset?, list]
  cases items with
  | nil => exact Attempt.succeeds_ok _
  | cons first rest =>
      obtain ⟨own, rfl⟩ := objects first List.mem_cons_self
      exact Attempt.succeeds_ok _

theorem bindings_succeeds (props : Fields) (items : List Value) (listed : datasets props = .ok items)
    (objects : ∀ item ∈ items, ∃ own, item = .object own) : Attempt.Succeeds (bindings props) := by
  simp only [bindings, listed, Attempt.ok_bind]
  rw [Attempt.succeeds_bind_pure_iff, Attempt.succeeds_mapM_iff]
  intro item member
  obtain ⟨own, rfl⟩ := objects item member
  exact Attempt.succeeds_ok _

theorem builtDatasets_succeeds_iff (props : Fields) (items : List Value)
    (listed : datasets props = .ok items) :
    Attempt.Succeeds (builtDatasets props) ↔ AreDrawable items := by
  simp only [builtDatasets, listed, Attempt.ok_bind]
  split
  · exact iff_of_true (Attempt.succeeds_pure _) (by simp [AreDrawable])
  · simp only [Attempt.succeeds_mapM_iff, dataset_succeeds_iff]
    rfl

/-- The entry of a chart can be built where its datasets can be, if there are any. -/
theorem component_succeeds_iff (id : String) (props : Fields) :
    Attempt.Succeeds (component id props) ↔
      ((props.get "datasets").isPresent = true →
        ∃ items, props.get "datasets" = .list items ∧ AreDrawable items) := by
  have parts : Attempt.Succeeds (component id props) ↔
      Attempt.Succeeds (labels props) ∧ Attempt.Succeeds (builtDatasets props) ∧
        Attempt.Succeeds (bindings props) :=
    Attempt.succeeds_bind_iff_and _ _ _ fun _ => Attempt.succeeds_bind_iff_and _ _ _ fun _ =>
      Attempt.succeeds_bind_pure_iff _ _
  rw [parts, labels_succeeds_iff]
  by_cases present : (props.get "datasets").isPresent = true
  · have given : datasets props = (props.get "datasets").items? := by
      simp only [datasets, present, if_true]
    constructor
    · rintro ⟨_, built, _⟩ _
      obtain ⟨items, listed, _⟩ := (Attempt.succeeds_bind_iff _ _).mp built
      have drawable := (builtDatasets_succeeds_iff props items listed).mp built
      rw [given] at listed
      exact ⟨items, Preview.eq_list_of_objects _ items present listed drawable.objects, drawable⟩
    · intro drawn
      obtain ⟨items, list, drawable⟩ := drawn present
      have listed : datasets props = .ok items := by rw [given, list]; rfl
      exact ⟨firstDataset?_of_list props items list drawable.objects,
        (builtDatasets_succeeds_iff props items listed).mpr drawable,
        bindings_succeeds props items listed drawable.objects⟩
  · have absent := Bool.eq_false_iff.mpr present
    have listed : datasets props = .ok [] := by
      simp only [datasets, absent, Bool.false_eq_true, if_false]
    refine iff_of_true ⟨?_, ?_, ?_⟩ fun given => absurd given present
    · rw [firstDataset?_of_absent props absent]
      exact Attempt.succeeds_ok _
    · exact (builtDatasets_succeeds_iff props [] listed).mpr (by simp [AreDrawable])
    · exact bindings_succeeds props [] listed (by simp)

end Chart

/-! ### Rendering -/

theorem Kind.entry_succeeds (kind : Kind) (other : kind ≠ .chart) (id : String) (props : Fields) :
    Attempt.Succeeds (kind.entry id props) := by
  cases kind with
  | chart => exact absurd rfl other
  | _ => exact Attempt.succeeds_ok _

/-- A widget that is not hidden can be rendered just when it can be drawn and its entry can be built. -/
theorem Kind.render_succeeds_iff (kind : Kind) (now : Moment) (id : String) (given : Fields) :
    Attempt.Succeeds (kind.renderer.render now id given) ↔
      (isHidden (resolve kind.defaults given) = false →
        Attempt.Succeeds (kind.draw now id (resolve kind.defaults given)) ∧
          Attempt.Succeeds (kind.entry id (resolve kind.defaults given))) := by
  rw [render_eq]
  split
  · next away => exact iff_of_true (Attempt.succeeds_ok _) fun seen => by simp [away] at seen
  · next seen =>
      rw [forall_prop_of_true (Bool.eq_false_iff.mpr seen)]
      exact Attempt.succeeds_bind_iff_and _ _ _ fun markup => Attempt.succeeds_bind_pure_iff _ _

end Widget

end ReportCompiler
