import ReportCompiler.Export.Basic
import ReportCompiler.Proofs.Asset.Replacement
import ReportCompiler.Proofs.Compile.Entries
import ReportCompiler.Proofs.Export.Checks
import ReportCompiler.Proofs.Widget.Rendering

/-!
How an export can end. It gives a document, or, if it is strict, the errors in the template; neither the
template nor the client can make it fail in any other way, save for bindings that cannot be checked.
-/

namespace ReportCompiler

/-! ### The document -/

namespace Document

theorem all_runFields (options : ExportOptions) (settings : Settings) :
    Fields.All Value.IsTimeless (runFields options settings) := by
  have margins : Fields.All Value.IsTimeless
      (Sides.names.toList.zip (options.margins.toList.map .number)) := by
    intro field member
    obtain ⟨n, _, number⟩ := List.mem_map.mp (List.of_mem_zip member).2
    rw [← number]
    simp [Value.IsTimeless]
  simp [runFields, margins, Value.IsTimeless, Value.int]

-- Dates are all that JSON has no place for.
theorem assemble_succeeds (body : String) (components : List Component) (data : Value)
    (options : ExportOptions) (settings : Settings)
    (entries : ∀ component ∈ components, Fields.All Value.IsTimeless component.props)
    (timeless : data.holdsDate = false) :
    Attempt.Succeeds (assemble body components data options settings) := by
  have sample : (if options.embedsData then data else .null).All Value.IsTimeless := by
    split
    · exact (Value.holdsDate_eq_false_iff data).mp timeless
    · simp [Value.IsTimeless]
  have listed : (Value.list (components.map Component.value)).All Value.IsTimeless := by
    rw [Value.all_list]
    intro value member
    obtain ⟨component, inside, rfl⟩ := List.mem_map.mp member
    simp [Component.value, entries component inside, Value.IsTimeless]
  have whole : (Value.object (config components data options settings)).holdsDate = false := by
    rw [Value.holdsDate_eq_false_iff, Value.all_object, config, Fields.all_cons, Fields.all_cons,
      Fields.all_cons, Value.all_object]
    exact ⟨all_runFields options settings, listed, sample, Fields.all_nil _⟩
  rw [assemble, Value.embeddedJson, whole]
  exact ⟨_, rfl⟩

end Document

/-! ### Exports -/

/-- The export gave a result, or it was strict and there were errors to report. -/
def Run.IsOrderly (options : ExportOptions) (run : Run ExportResult) : Prop :=
  (∃ result, run.outcome = .ok result) ∨
    ∃ findings, run.outcome = .error (.hasErrors findings) ∧ options.isStrict = true ∧
      ∃ finding ∈ findings, finding.severity = .error

namespace Exporter

variable (e : Exporter)

theorem bindingFindings_succeeds_iff (compiled : Compiled) (data : Value) :
    Attempt.Succeeds (bindingFindings compiled data) ↔
      data.isNull = true ∨ ∀ component ∈ compiled.components, component.IsCheckable data := by
  unfold bindingFindings
  by_cases absent : data.isNull = true
  · simp [absent]
  · rw [if_neg absent, checkBindings_succeeds_iff]
    simp [absent]

theorem exists_severe (findings : List Finding)
    (errors : (!(Severity.error.select findings).isEmpty) = true) :
    ∃ finding ∈ findings, finding.severity = .error := by
  obtain ⟨finding, selected⟩ := List.exists_mem_of_ne_nil _
    (List.isEmpty_eq_false_iff.mp (Bool.not_eq_true' _ |>.mp errors))
  obtain ⟨found, severe⟩ := List.mem_filter.mp selected
  exact ⟨finding, found, by simpa using severe⟩

theorem finish_isOrderly_iff (kind : String) (reports : List Asset.Report) (compiled : Compiled)
    (data : Value) (options : ExportOptions)
    (entries : ∀ component ∈ compiled.components, Fields.All Value.IsTimeless component.props)
    (timeless : data.holdsDate = false) :
    (e.finish kind reports compiled data options).IsOrderly options ↔
      data.isNull = true ∨ ∀ component ∈ compiled.components, component.IsCheckable data := by
  rw [← bindingFindings_succeeds_iff]
  unfold finish
  simp only
  cases bindingFindings compiled data with
  | error fault => simp [Run.IsOrderly]
  | ok unresolved =>
      simp only [Attempt.succeeds_ok, iff_true]
      split
      · next refused =>
          obtain ⟨strict, errors⟩ := Bool.and_eq_true_iff.mp refused
          exact Or.inr ⟨_, rfl, strict, exists_severe _ errors⟩
      · obtain ⟨html, assembled⟩ := Document.assemble_succeeds compiled.html compiled.components data
          options e.settings entries timeless
        rw [assembled]
        exact Or.inl ⟨_, rfl⟩

-- Putting images inside leaves the shape of the template alone, and adds no dates.
theorem keys_prepare (options : ExportOptions) (tree : Tree) :
    (e.prepare options tree).1.keys = tree.keys := by
  unfold prepare
  split
  · exact Asset.keys_replaceInTree _ tree
  · rfl

theorem all_prepare (leaf : Value → Prop) (text : ∀ s, leaf (.text s)) (options : ExportOptions)
    (tree : Tree) (all : ∀ entry ∈ tree.nodes, Fields.All leaf entry.2.props) :
    ∀ entry ∈ (e.prepare options tree).1.nodes, Fields.All leaf entry.2.props := by
  unfold prepare
  split
  · exact Asset.all_replaceInTree leaf _ text tree all
  · exact all

/-- The outcome of an export that its findings do not end. -/
def written (compiled : Compiled) (findings : List Finding) (data : Value)
    (options : ExportOptions) : Except ExportFailure ExportResult :=
  match Document.assemble compiled.html compiled.components data options e.settings with
  | .error fault => .error (.fault fault)
  | .ok html => .ok ⟨html, compiled.components, findings, compiled.widgetCount⟩

theorem findings_of_written (compiled : Compiled) (findings : List Finding) (data : Value)
    (options : ExportOptions) (result : ExportResult)
    (ok : e.written compiled findings data options = .ok result) : result.findings = findings := by
  unfold written at ok
  split at ok
  · cases ok
  · rw [← Except.ok.inj ok]

section Finish

variable (kind : String) (reports : List Asset.Report) (compiled : Compiled) (data : Value)
  (options : ExportOptions)

theorem finish_of_fault (fault : Fault) (unchecked : bindingFindings compiled data = .error fault) :
    (e.finish kind reports compiled data options).outcome = .error (.fault fault) := by
  unfold finish
  rw [unchecked]

theorem finish_of_checked (unresolved findings : List Finding)
    (checked : bindingFindings compiled data = .ok unresolved)
    (whole : findings = reports.flatMap assetFindings ++ compiled.findings ++ unresolved) :
    (e.finish kind reports compiled data options).outcome =
      if options.isStrict && !(Severity.error.select findings).isEmpty then
        .error (.hasErrors findings)
      else e.written compiled findings data options := by
  subst whole
  unfold finish written
  rw [checked]
  simp only
  split
  · rfl
  · cases Document.assemble compiled.html compiled.components data options e.settings <;> rfl

theorem findings_of_finish (result : ExportResult)
    (ok : (e.finish kind reports compiled data options).outcome = .ok result) :
    ∃ unresolved, bindingFindings compiled data = .ok unresolved ∧
      result.findings = reports.flatMap assetFindings ++ compiled.findings ++ unresolved := by
  cases checked : bindingFindings compiled data with
  | error fault =>
      rw [e.finish_of_fault kind reports compiled data options fault checked] at ok
      cases ok
  | ok unresolved =>
      rw [e.finish_of_checked kind reports compiled data options unresolved _ checked rfl] at ok
      split at ok
      · cases ok
      · exact ⟨unresolved, rfl, e.findings_of_written _ _ _ _ result ok⟩

end Finish

theorem assetFindings_warn (reports : List Asset.Report) :
    ∀ finding ∈ reports.flatMap assetFindings,
      finding.code = "ASSET_INLINE_FAILED" ∧ finding.severity = .warning := by
  intro finding member
  obtain ⟨report, _, found⟩ := List.mem_flatMap.mp member
  obtain ⟨failure, _, rfl⟩ := List.mem_map.mp found
  exact ⟨rfl, rfl⟩

-- Images are no errors, whatever became of them.
theorem select_errors (reports : List Asset.Report) (findings : List Finding) :
    Severity.error.select (reports.flatMap assetFindings ++ findings) =
      Severity.error.select findings := by
  have none_ : Severity.error.select (reports.flatMap assetFindings) = [] := by
    refine List.filter_eq_nil_iff.mpr fun finding member => ?_
    rw [(assetFindings_warn reports finding member).2]
    decide
  rw [Severity.select, List.filter_append]
  exact congrArg (· ++ _) none_

theorem written_succeeds (compiled : Compiled) (findings : List Finding) (data : Value)
    (options : ExportOptions)
    (entries : ∀ component ∈ compiled.components, Fields.All Value.IsTimeless component.props)
    (timeless : data.holdsDate = false) :
    ∃ result, e.written compiled findings data options = .ok result := by
  obtain ⟨html, assembled⟩ := Document.assemble_succeeds compiled.html compiled.components data
    options e.settings entries timeless
  rw [written, assembled]
  exact ⟨_, rfl⟩

/-- An export that is not strict gives a document where its bindings can be checked. -/
theorem exists_result (tree : Tree) (data : Value) (options : ExportOptions)
    (unresolved : List Finding) (lenient : options.isStrict = false) (distinct : tree.keys.Nodup)
    (settings : ∀ entry ∈ tree.nodes, (Value.object entry.2.props).holdsDate = false)
    (timeless : data.holdsDate = false)
    (checked : bindingFindings
      (compile (e.surroundings options data) (e.prepare options tree).1) data = .ok unresolved) :
    ∃ result, (e.exportTree tree data options).outcome = .ok result ∧
      result.findings = [(e.prepare options tree).2].flatMap assetFindings ++
        (compile (e.surroundings options data) (e.prepare options tree).1).findings ++
        unresolved := by
  have given : ∀ entry ∈ tree.nodes, Fields.All Value.IsTimeless entry.2.props := by
    intro entry member
    rw [← Value.all_object, ← Value.holdsDate_eq_false_iff]
    exact settings entry member
  have keys : (e.prepare options tree).1.keys.Nodup := by
    rw [keys_prepare]
    exact distinct
  have entries := compile_all_components Value.IsTimeless admitsOwn_isTimeless
    (e.surroundings options data) (e.prepare options tree).1 rfl keys
    (e.all_prepare Value.IsTimeless (fun _ => trivial) options tree given)
  have ended := e.finish_of_checked "single" [(e.prepare options tree).2]
    (compile (e.surroundings options data) (e.prepare options tree).1) data options unresolved _
    checked rfl
  obtain ⟨result, ok⟩ := e.written_succeeds _ _ data options entries timeless
  rw [lenient, Bool.false_and, if_neg Bool.false_ne_true, ok] at ended
  exact ⟨result, ended, e.findings_of_written _ _ _ _ result ok⟩

-- Nothing else ends an export: not the client, not the widgets, not what the data holds.
theorem exportTree_isOrderly_iff (tree : Tree) (data : Value) (options : ExportOptions)
    (distinct : tree.keys.Nodup)
    (settings : ∀ entry ∈ tree.nodes, (Value.object entry.2.props).holdsDate = false)
    (timeless : data.holdsDate = false) :
    (e.exportTree tree data options).IsOrderly options ↔
      data.isNull = true ∨ ∀ component ∈
        (compile (e.surroundings options data) (e.prepare options tree).1).components,
          component.IsCheckable data := by
  have given : ∀ entry ∈ tree.nodes, Fields.All Value.IsTimeless entry.2.props := by
    intro entry member
    rw [← Value.all_object, ← Value.holdsDate_eq_false_iff]
    exact settings entry member
  have prepared := e.all_prepare Value.IsTimeless (fun _ => trivial) options tree given
  have keys : (e.prepare options tree).1.keys.Nodup := by
    rw [keys_prepare]
    exact distinct
  exact e.finish_isOrderly_iff "single" _ _ data options
    (compile_all_components Value.IsTimeless admitsOwn_isTimeless _ _ rfl keys prepared) timeless

/-- The usual settings, and no network. -/
def offline : Exporter :=
  { settings := {}, client := fun _ => .unreachable "offline", now := default, duration := .int 0 }

/-- A client that reaches nothing, and tells how often it was asked before. -/
def counting : Asset.ClientIn (StateM Nat) := fun _ => do
  let before ← getModify (· + 1)
  return .unreachable (toString before)

theorem exportTree_isOrderly_unknown :
    let tree : Tree :=
      { nodes := [("w", { Node.bare "w" "Sparkline" [] with props := [("binding", .text "total")] })],
        rootId := none }
    let data : Value := .object [("total", .int 1)]
    tree.keys.Nodup ∧ (∀ entry ∈ tree.nodes, (Value.object entry.2.props).holdsDate = false) ∧
      data.holdsDate = false ∧ (offline.exportTree tree data {}).IsOrderly {} := by
  intro tree data
  have settings : ∀ entry ∈ tree.nodes, (Value.object entry.2.props).holdsDate = false := by
    decide
  refine ⟨by decide, settings, by decide, ?_⟩
  refine (offline.exportTree_isOrderly_iff tree data {} (by decide) settings (by decide)).mpr ?_
  have entries : (compile (offline.surroundings {} data) (offline.prepare {} tree).1).components =
      [{ id := "w", type := "Sparkline", props := [("binding", .text "total")] }] := rfl
  rw [entries]
  refine Or.inr fun component member => ?_
  rw [List.mem_singleton.mp member]
  have binding : Path.IsReadable "total" data := Or.inr trivial
  refine ⟨fun _ => binding, ?_, ?_⟩
  · intro _ absent
    cases absent
  · intro _ absent
    cases absent

-- A chart's binding goes into its entry as it is, and a number is no path.
theorem exportTree_faults :
    let tree : Tree :=
      { nodes := [("c", { Node.bare "c" "Chart" [] with props := [("binding", .int 5)] })],
        rootId := none }
    let data : Value := .object [("x", .int 1)]
    (offline.exportTree tree data {}).outcome = .error (.fault .notText) ∧
      ¬ (offline.exportTree tree data {}).IsOrderly {} := by
  intro tree data
  have fault : (offline.exportTree tree data {}).outcome = .error (.fault .notText) := rfl
  refine ⟨fault, ?_⟩
  rintro (⟨result, ok⟩ | ⟨findings, refused, _⟩)
  · rw [fault] at ok
    cases ok
  · rw [fault] at refused
    cases refused

end Exporter

end ReportCompiler
