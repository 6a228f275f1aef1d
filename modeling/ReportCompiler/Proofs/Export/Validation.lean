import ReportCompiler.Proofs.Compile.Alongside
import ReportCompiler.Proofs.Export.Outcome
import ReportCompiler.Proofs.Widget.Settings

/-!
Validation and export. Validation compiles the template as it is, an export compiles it with its images
inside; images decide neither over what is found nor over the paths that are checked, so that validation
predicts what an export without a preview finds.
-/

namespace ReportCompiler

open ReportCompiler.Widget

/-- The settings are changed in images only. -/
def KeepsAllButImages (f : Fields → Fields) : Prop :=
  ∀ props, Fields.without Asset.imageProps (f props) = Fields.without Asset.imageProps props

theorem KeepsAllButImages.get_eq (f : Fields → Fields) (keeps : KeepsAllButImages f)
    (props : Fields) (name : String) (other : name ∉ Asset.imageProps) :
    (f props).get name = props.get name := by
  rw [← Fields.get_without Asset.imageProps (f props) name other, keeps,
    Fields.get_without Asset.imageProps props name other]

/-- What is known of an entry when its bindings are checked. -/
def Component.checked (component : Component) : String × Except Fault (List Value) :=
  (component.id, component.paths)

theorem Component.paths_congr (component other : Component)
    (same : ∀ name ∈ ["binding", "text", "bindings"],
      other.props.get name = component.props.get name) : other.paths = component.paths := by
  simp only [paths, bindingPaths, textPaths, same "binding" (by simp), same "text" (by simp),
    same "bindings" (by simp)]

theorem checkBindings_congr (components others : List Component) (data : Value)
    (same : others.map Component.checked = components.map Component.checked) :
    checkBindings others data = checkBindings components data := by
  have byChecked : ∀ listed : List Component, checkBindings listed data =
      (do
        let findings ← (listed.map Component.checked).mapM fun entry => do
          unresolvedPaths data entry.1 (← entry.2)
        return findings.flatten) := by
    intro listed
    rw [List.mapM_map]
    rfl
  rw [byChecked, byChecked, same]

/-! ### Single widgets -/

/-- What two contributions have in common where nothing that is checked tells them apart. -/
structure Own.Resembles (own other : Own) : Prop where
  agrees : Own.Agrees own other
  checked : other.components.map Component.checked = own.components.map Component.checked

namespace Own

variable (s : Surroundings) (node : Node) (f : Fields → Fields) (keeps : KeepsAllButImages f)
include keeps

theorem conditionFindings_mapProps :
    conditionFindings (node.mapProps f) = conditionFindings node := by
  unfold conditionFindings
  rw [Node.mapProps, keeps.get_eq f node.props "visibilityCondition" (by decide)]

-- The entry of a widget of unknown type holds its images, but no path stands under their names.
theorem unknown_resembles : Resembles (unknown node) (unknown (node.mapProps f)) := by
  have paths := Component.paths_congr { id := node.id, type := node.type, props := node.props }
    { id := node.id, type := node.type, props := f node.props } fun name member =>
      keeps.get_eq f node.props name (by revert name; decide)
  refine ⟨⟨rfl, rfl, rfl⟩, ?_⟩
  simp [unknown, placeholder, Component.checked, Node.mapProps, paths]

theorem gist_render_mapProps (kind : Kind) (static : s.data.isNull = true) :
    (Own.render s kind.renderer (node.mapProps f)).map Rendered.gist =
      (Own.render s kind.renderer node).map Rendered.gist := by
  have plain : ∀ node, Own.render s kind.renderer node =
      kind.renderer.render s.now node.id node.props := fun _ => if_pos static
  rw [plain, plain]
  exact kind.gist_congr s.now node.id node.props (f node.props) Asset.imageProps (keeps node.props)
    (by decide)

/-- Other images leave a widget's findings and the paths of its entry as they are. -/
theorem mapProps_resembles (standard : s.registry = .standard) (static : s.data.isNull = true) :
    Resembles (ofNode s node) (ofNode s (node.mapProps f)) := by
  have condition := conditionFindings_mapProps node f keeps
  cases registered : Kind.ofName? node.type with
  | none =>
      rw [ofNode_of_unknown s node standard registered,
        ofNode_of_unknown s (node.mapProps f) standard registered]
      exact unknown_resembles node f keeps
  | some kind =>
      have gist := gist_render_mapProps s node f keeps kind static
      cases attempt : Own.render s kind.renderer node with
      | error fault =>
          rw [attempt] at gist
          have failure := (Attempt.map_eq_error_iff _ _ _).mp gist
          rw [ofNode_of_fault s node kind fault standard registered attempt,
            ofNode_of_fault s (node.mapProps f) kind fault standard registered failure, condition]
          exact ⟨⟨rfl, rfl, rfl⟩, rfl⟩
      | ok result =>
          rw [attempt] at gist
          obtain ⟨shown, ok, same⟩ := (Attempt.map_eq_ok_iff _ _ _).mp gist
          obtain ⟨empty, entry⟩ := Prod.mk.inj same
          rw [ofNode_of_render s node kind result standard registered attempt,
            ofNode_of_render s (node.mapProps f) kind shown standard registered ok, condition]
          refine ⟨agrees_rendered node _ result shown _ empty, ?_⟩
          rw [components_rendered, components_rendered, empty, entry]

end Own

/-! ### Whole templates -/

section Templates

variable (s : Surroundings) (tree : Tree) (f : Fields → Fields) (standard : s.registry = .standard)
  (static : s.data.isNull = true) (keeps : KeepsAllButImages f) (distinct : tree.keys.Nodup)
include standard static keeps distinct

theorem exists_places_mapProps :
    ∃ entries, tree.Places s entries ∧ (tree.mapProps f).Places s (mapEntries f entries) ∧
      (compile s (tree.mapProps f)).findings = (compile s tree).findings := by
  obtain ⟨entries, plain, inlined, _, findings, _⟩ :=
    compile_alongside f s s tree (fun _ => True) distinct (fun _ _ => trivial) (fun _ _ => trivial)
      fun entry _ _ => (Own.mapProps_resembles s entry.2 f keeps standard static).agrees
  exact ⟨entries, plain, inlined, findings⟩

theorem findings_mapProps :
    (compile s (tree.mapProps f)).findings = (compile s tree).findings ∧
      ∀ data, Exporter.bindingFindings (compile s (tree.mapProps f)) data =
        Exporter.bindingFindings (compile s tree) data := by
  obtain ⟨entries, plain, inlined, findings⟩ :=
    exists_places_mapProps s tree f standard static keeps distinct
  refine ⟨findings, fun data => ?_⟩
  have checked : (compile s (tree.mapProps f)).components.map Component.checked =
      (compile s tree).components.map Component.checked := by
    rw [plain.components_eq, inlined.components_eq, mapEntries, List.flatMap_map, List.map_flatMap,
      List.map_flatMap]
    exact List.flatMap_congr fun entry _ =>
      (Own.mapProps_resembles s entry.2 f keeps standard static).checked
  unfold Exporter.bindingFindings
  rw [checkBindings_congr _ _ data checked]

end Templates

/-! ### Exports -/

namespace Exporter

variable (e : Exporter)

theorem exists_prepare_eq (options : ExportOptions) (tree : Tree) :
    ∃ f, KeepsAllButImages f ∧ (e.prepare options tree).1 = tree.mapProps f := by
  unfold prepare
  split
  · exact ⟨_, Asset.without_replaceInProps _, rfl⟩
  · exact ⟨id, fun _ => rfl, tree.mapProps_id.symm⟩

-- Neither a preview nor strictness has a say in which template is compiled.
theorem outcome_of_prepared (tree : Tree) (data : Value) (options : ExportOptions)
    (showsData isStrict : Bool) (f : Fields → Fields)
    (prepared : (e.prepare options tree).1 = tree.mapProps f) :
    (e.exportTree tree data { options with showsData, isStrict }).outcome =
      (e.finish "single" [(e.prepare options tree).2]
        (compile (e.surroundings { options with showsData } data) (tree.mapProps f)) data
        { options with showsData, isStrict }).outcome := by
  rw [← prepared]
  rfl

/-- Validation predicts what an export without a preview finds, besides images that are not inlined; a
strict export ends in these findings just when one that was predicted is an error. Dates aside, for which
JSON has no place, the export that is not strict gives a document. -/
theorem exportTree_validate (tree : Tree) (data : Value) (options : ExportOptions)
    (distinct : tree.keys.Nodup) :
    let lenient := { options with showsData := false, isStrict := false }
    let strict := { options with showsData := false, isStrict := true }
    match e.validate tree data with
    | .error fault =>
        (e.exportTree tree data lenient).outcome = .error (.fault fault) ∧
          (e.exportTree tree data strict).outcome = .error (.fault fault)
    | .ok predicted =>
        ∃ inlined : List Finding,
          (∀ finding ∈ inlined,
            finding.code = "ASSET_INLINE_FAILED" ∧ finding.severity = .warning) ∧
          (∀ result, (e.exportTree tree data lenient).outcome = .ok result →
            result.findings = inlined ++ predicted) ∧
          ((∀ entry ∈ tree.nodes, (Value.object entry.2.props).holdsDate = false) →
            data.holdsDate = false →
            ∃ result, (e.exportTree tree data lenient).outcome = .ok result) ∧
          (e.exportTree tree data strict).outcome =
            if (Severity.error.select predicted).isEmpty then
              (e.exportTree tree data lenient).outcome
            else .error (.hasErrors (inlined ++ predicted)) := by
  intro lenient strict
  let s := e.surroundings {} .null
  obtain ⟨f, keeps, prepared⟩ := e.exists_prepare_eq options tree
  obtain ⟨findings, bindings⟩ := findings_mapProps s tree f rfl rfl keeps distinct
  let inlined := [(e.prepare options tree).2].flatMap assetFindings
  have lenientRun := e.outcome_of_prepared tree data options false false f prepared
  have strictRun := e.outcome_of_prepared tree data options false true f prepared
  have validated : e.validate tree data =
      (bindingFindings (compile s tree) data).map fun unresolved =>
        (compile s tree).findings ++ unresolved := rfl
  rw [validated]
  cases checked : bindingFindings (compile s tree) data with
  | error fault =>
      have unchecked := (bindings data).trans checked
      exact ⟨lenientRun.trans (e.finish_of_fault _ _ _ data lenient fault unchecked),
        strictRun.trans (e.finish_of_fault _ _ _ data strict fault unchecked)⟩
  | ok unresolved =>
      let predicted := (compile s tree).findings ++ unresolved
      have whole : inlined ++ predicted =
          [(e.prepare options tree).2].flatMap assetFindings ++
            (compile s (tree.mapProps f)).findings ++ unresolved := by
        rw [findings, List.append_assoc]
      have lenientEnd := lenientRun.trans
        (e.finish_of_checked _ _ _ data lenient unresolved _ ((bindings data).trans checked) whole)
      have strictEnd := strictRun.trans
        (e.finish_of_checked _ _ _ data strict unresolved _ ((bindings data).trans checked) whole)
      rw [select_errors] at strictEnd
      have lenientEnd : (e.exportTree tree data lenient).outcome =
          e.written (compile s (tree.mapProps f)) (inlined ++ predicted) data lenient := lenientEnd
      refine ⟨inlined, assetFindings_warn _, ?_, ?_, ?_⟩
      · exact fun result ok => e.findings_of_written _ _ _ _ result (lenientEnd ▸ ok)
      · intro settings timeless
        obtain ⟨result, ok, _⟩ := e.exists_result tree data lenient unresolved rfl distinct settings
          timeless (prepared ▸ (bindings data).trans checked)
        exact ⟨result, ok⟩
      · rw [strictEnd, lenientEnd]
        cases (Severity.error.select predicted).isEmpty <;> rfl

theorem exportTree_validate_cycle :
    let image : Node :=
      { Node.bare "i" "Image" [] with props := [("src", .text "https://host/a.png")] }
    let tree : Tree :=
      { nodes := [("i", image), ("a", .bare "a" "Container" ["b"]),
          ("b", .bare "b" "Container" ["b"])],
        rootId := none }
    ∃ inlined : List Finding, (∀ finding ∈ inlined, finding.severity = .warning) ∧
      (offline.exportTree tree .null { isStrict := true }).outcome =
        .error (.hasErrors (inlined ++ [.repeatedWidget "b"])) := by
  intro image tree
  have predicted : offline.validate tree .null = .ok [.repeatedWidget "b"] := rfl
  have whole := offline.exportTree_validate tree .null {} (by decide)
  rw [predicted] at whole
  obtain ⟨inlined, warnings, _, _, ended⟩ := whole
  exact ⟨inlined, fun finding member => (warnings finding member).2, ended⟩

end Exporter

end ReportCompiler
