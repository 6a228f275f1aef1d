import Mathlib.Algebra.GroupWithZero.Nat
import ReportCompiler.Proofs.Metrics.Growth

/-!
The counters of exports: how many ended and how, how many widgets they rendered, and what they found. An event
of one kind leaves the counters of the others alone.
-/

namespace ReportCompiler

namespace Metrics

namespace Sample

def exports (kind status : String) : Sample :=
  { name := "reportbuilder_exports_total", labels := [("kind", kind), ("status", status)] }

def widgets : Sample := { name := "reportbuilder_widgets_rendered_total", labels := [] }

def diagnostics (code level : String) : Sample :=
  { name := "reportbuilder_diagnostics_total", labels := [("code", code), ("level", level)] }

/-- Whether the sample is a counter of exports. -/
def countsExports (sample : Sample) : Bool :=
  [(exports "" "").name, widgets.name, (diagnostics "" "").name].contains sample.name

end Sample

@[simp] theorem Sample.exports_eq_exports_iff (kind status other otherStatus : String) :
    exports kind status = exports other otherStatus ↔ kind = other ∧ status = otherStatus := by
  simp [exports]

@[simp] theorem Sample.diagnostics_eq_diagnostics_iff (code level other otherLevel : String) :
    diagnostics code level = diagnostics other otherLevel ↔ code = other ∧ level = otherLevel := by
  simp [diagnostics]

@[simp] theorem Sample.exports_ne_widgets (kind status : String) : exports kind status ≠ widgets := by
  simp [exports, widgets]

@[simp] theorem Sample.widgets_ne_exports (kind status : String) : widgets ≠ exports kind status :=
  (exports_ne_widgets kind status).symm

@[simp] theorem Sample.exports_ne_diagnostics (kind status code level : String) :
    exports kind status ≠ diagnostics code level := by
  simp [exports, diagnostics]

@[simp] theorem Sample.diagnostics_ne_exports (kind status code level : String) :
    diagnostics code level ≠ exports kind status :=
  (exports_ne_diagnostics kind status code level).symm

@[simp] theorem Sample.widgets_ne_diagnostics (code level : String) : widgets ≠ diagnostics code level := by
  simp [widgets, diagnostics]

@[simp] theorem Sample.diagnostics_ne_widgets (code level : String) : diagnostics code level ≠ widgets :=
  (widgets_ne_diagnostics code level).symm

/-! ### Several events -/

theorem of_growth_append (first second : List Event) (sample : Sample) :
    (growth (first ++ second)).of sample = (growth first).of sample + (growth second).of sample := by
  rw [growth, growth, growth, Growth.of_total, Growth.of_total, Growth.of_total, List.flatMap_append,
    Growth.of_append]

/-- What each part adds up to, all parts add up to. -/
theorem of_growth_flatMap {α : Type} (events : α → List Event) (amount : α → Nat) (parts : List α)
    (sample : Sample) (each : ∀ part ∈ parts, (growth (events part)).of sample = amount part) :
    (growth (parts.flatMap events)).of sample = ((parts.map amount).sum : Nat) := by
  induction parts with
  | nil => rfl
  | cons part rest ih =>
      obtain ⟨here, later⟩ := List.forall_mem_cons.mp each
      rw [List.flatMap_cons, of_growth_append, here, ih later, List.map_cons, List.sum_cons, Int.natCast_add]

theorem of_growth_single (event : Event) (sample : Sample) :
    (growth [event]).of sample = event.growth.of sample := by
  rw [of_growth_cons]
  exact Int.add_zero _

/-! ### Single events -/

theorem Growth.of_eq_zero (growth : Growth) (sample : Sample)
    (apart : ∀ entry ∈ growth, entry.1.name ≠ sample.name) : growth.of sample = 0 := by
  induction growth with
  | nil => rfl
  | cons entry rest ih =>
      obtain ⟨here, later⟩ := List.forall_mem_cons.mp apart
      have other : entry.1 ≠ sample := fun same => here (congrArg Sample.name same)
      rw [of_cons, if_neg other, ih later, Int.zero_add]

theorem name_of_mem_observe (name : String) (bounds : List Bound) (labels : List (String × String))
    (duration : Number) (entry : Sample × Int) (member : entry ∈ observe name bounds labels duration) :
    entry.1.name = name ++ "_bucket" ∨ entry.1.name = name ++ "_count" := by
  rcases List.mem_append.mp member with inBucket | inCount
  · obtain ⟨bound, _, rfl⟩ := List.mem_map.mp inBucket
    exact .inl rfl
  · split at inCount
    · cases inCount
    · rw [List.mem_singleton.mp inCount]
      exact .inr rfl

theorem of_observe_duration (labels : List (String × String)) (duration : Number) (sample : Sample)
    (counts : sample.countsExports = true) :
    (observe "reportbuilder_export_duration_seconds" exportBounds labels duration).of sample = 0 := by
  have apart : ∀ name ∈ [(Sample.exports "" "").name, Sample.widgets.name, (Sample.diagnostics "" "").name],
      "reportbuilder_export_duration_seconds" ++ "_bucket" ≠ name ∧
        "reportbuilder_export_duration_seconds" ++ "_count" ≠ name := by
    decide
  obtain ⟨noBucket, noCount⟩ := apart sample.name (List.contains_iff_mem.mp counts)
  apply Growth.of_eq_zero
  intro entry member
  rcases name_of_mem_observe _ _ _ _ entry member with bucket | count
  · rwa [bucket]
  · rwa [count]

/-- The end of an export counts in its own counter, and its widgets in theirs. -/
theorem of_finishedExport (kind status : String) (duration : Number) (widgets : Nat) (sample : Sample)
    (counts : sample.countsExports = true) :
    (Event.growth (.finishedExport kind status duration widgets)).of sample =
      (if Sample.exports kind status = sample then 1 else 0) +
        if Sample.widgets = sample then (widgets : Int) else 0 := by
  have natural : ¬ (widgets : Int) < 0 := by omega
  rw [Event.growth, if_neg natural, Growth.of_append, Growth.of_cons,
    of_observe_duration _ duration sample counts, Growth.of_cons, Growth.of_nil, Int.add_zero, Int.add_zero]
  rfl

theorem of_diagnostic (code level : String) (sample : Sample) :
    (Event.growth (.diagnostic code level)).of sample =
      if Sample.diagnostics code level = sample then 1 else 0 := by
  rw [Event.growth, Growth.of_cons, Growth.of_nil, Int.add_zero]
  rfl

theorem of_growth_images (images : List Bool) (sample : Sample) (counts : sample.countsExports = true) :
    (growth (images.map .asset)).of sample = 0 := by
  have apart : "reportbuilder_assets_inlined_total" ≠ sample.name := by
    rintro same
    rw [Sample.countsExports, ← same] at counts
    cases counts
  induction images with
  | nil => rfl
  | cons image rest ih =>
      rw [List.map_cons, of_growth_cons, ih, Int.add_zero]
      exact Growth.of_eq_zero _ sample (List.forall_mem_singleton.mpr apart)

end Metrics

end ReportCompiler
