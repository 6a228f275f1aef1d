import ReportCompiler.Proofs.Export.Outcome
import ReportCompiler.Proofs.Value.Strict

/-!
The numbers of an exported document. Where the template, the data and the options have finite numbers
only, its configuration is standard JSON just when no chart that is shown has a text for a point that
spells a number beyond all doubles.
-/

namespace ReportCompiler

theorem admitsFixed_isFinite : AdmitsFixed Value.IsFinite where
  null := trivial
  text _ := trivial
  bool _ := trivial
  int _ := rfl
  tension := rfl
  spacing := rfl

/-! ### The document -/

namespace Document

/-- The text of the configuration, as it stands in the document. -/
def configText (components : List Component) (data : Value) (options : ExportOptions)
    (settings : Settings) : String :=
  (Value.object (config components data options settings)).json .embedded

theorem assemble_eq (body : String) (components : List Component) (data : Value)
    (options : ExportOptions) (settings : Settings) (html : String)
    (ok : assemble body components data options settings = .ok html) :
    html = page body (configText components data options settings) options settings := by
  obtain ⟨text, written, whole⟩ := (Attempt.bind_eq_ok_iff _ _ _).mp ok
  unfold Value.embeddedJson at written
  split at written
  · cases written
  · rw [← (Attempt.pure_eq_ok_iff _ _).mp whole, ← Except.ok.inj written]
    rfl

theorem all_config_iff (components : List Component) (data : Value) (options : ExportOptions)
    (settings : Settings) (sample : data.All Value.IsFinite)
    (margins : ∀ margin ∈ options.margins.toList, margin.isFinite = true) :
    (Value.object (config components data options settings)).All Value.IsFinite ↔
      ∀ component ∈ components, Fields.All Value.IsFinite component.props := by
  have sides : Fields.All Value.IsFinite (Sides.names.toList.zip (options.margins.toList.map .number)) := by
    intro field member
    obtain ⟨n, listed, number⟩ := List.mem_map.mp (List.of_mem_zip member).2
    rw [← number, Value.all_number]
    exact margins n listed
  have run : Fields.All Value.IsFinite (runFields options settings) := by
    simp [runFields, sides, Value.IsFinite, Value.int, Number.isFinite]
  have given : (if options.embedsData then data else .null).All Value.IsFinite := by
    split
    · exact sample
    · simp [Value.IsFinite]
  simp [config, run, given, Component.value, Value.IsFinite]

/-- The text of the configuration is standard JSON just when the entries' numbers are finite. -/
theorem configText_standard_iff (components : List Component) (data : Value)
    (options : ExportOptions) (settings : Settings) (sample : data.All Value.IsFinite)
    (margins : ∀ margin ∈ options.margins.toList, margin.isFinite = true) :
    (∃ read, JsonReader.readWith JsonReader.standardNames
        (configText components data options settings) = .ok read) ↔
      ∀ component ∈ components, Fields.All Value.IsFinite component.props := by
  rw [configText, JsonReader.readWith_standard_iff,
    all_config_iff components data options settings sample margins]

end Document

/-! ### Exports -/

namespace Exporter

open JsonReader

variable (e : Exporter)

theorem written_eq (compiled : Compiled) (findings : List Finding) (data : Value)
    (options : ExportOptions) (result : ExportResult)
    (ok : e.written compiled findings data options = .ok result) :
    result.components = compiled.components ∧
      result.html = Document.page compiled.html
        (Document.configText result.components data options e.settings) options e.settings := by
  unfold written at ok
  split at ok
  · cases ok
  · next html assembled =>
      rw [← Except.ok.inj ok]
      exact ⟨rfl, Document.assemble_eq _ _ _ _ _ html assembled⟩

theorem exportTree_eq (tree : Tree) (data : Value) (options : ExportOptions) (result : ExportResult)
    (ok : (e.exportTree tree data options).outcome = .ok result) :
    let compiled := compile (e.surroundings options data) (e.prepare options tree).1
    result.components = compiled.components ∧
      result.html = Document.page compiled.html
        (Document.configText result.components data options e.settings) options e.settings := by
  intro compiled
  have ran : (e.finish "single" [(e.prepare options tree).2] compiled data options).outcome =
      .ok result := ok
  obtain ⟨unresolved, checked, -⟩ := e.findings_of_finish _ _ compiled data options result ran
  rw [e.finish_of_checked _ _ compiled data options unresolved _ checked rfl] at ran
  split at ran
  · cases ran
  · exact e.written_eq compiled _ data options result ran

/-- The text of the configuration is standard JSON just when all numbers in the entries are finite, and
that is when no text that a point of a shown chart is read from spells a number beyond all doubles. -/
theorem exportTree_standard_iff (tree : Tree) (data : Value) (options : ExportOptions)
    (result : ExportResult) (distinct : tree.keys.Nodup)
    (given : ∀ entry ∈ tree.nodes, Fields.All Value.IsFinite entry.2.props)
    (sample : data.All Value.IsFinite)
    (margins : ∀ margin ∈ options.margins.toList, margin.isFinite = true)
    (ok : (e.exportTree tree data options).outcome = .ok result) :
    let s := e.surroundings options data
    let text := Document.configText result.components data options e.settings
    ∃ entries, (e.prepare options tree).1.Places s entries ∧
      result.html = Document.page (compile s (e.prepare options tree).1).html text options
        e.settings ∧
      ((∃ config, readWith standardNames text = .ok config) ↔
        ∀ component ∈ result.components, Fields.All Value.IsFinite component.props) ∧
      ((∀ component ∈ result.components, Fields.All Value.IsFinite component.props) ↔
        ∀ entry ∈ entries, entry.2.DrawsFrom s fun value =>
          ∀ text ∈ value.pointTexts, Text.StaysInRange text) := by
  intro s text
  obtain ⟨components, html⟩ := e.exportTree_eq tree data options result ok
  have keys : (e.prepare options tree).1.keys.Nodup := by
    rw [keys_prepare]
    exact distinct
  have given := e.all_prepare Value.IsFinite (fun _ => trivial) options tree given
  obtain ⟨visits, walk⟩ := Outline.ofTree_walk s (e.prepare options tree).1 keys ""
  have places : (e.prepare options tree).1.Places s (placed visits) := ⟨visits, walk, rfl⟩
  refine ⟨placed visits, places, html,
    Document.configText_standard_iff _ data options e.settings sample margins, ?_⟩
  rw [components, places.all_components_iff Value.IsFinite admitsFixed_isFinite rfl given]
  refine forall₂_congr fun entry member => ?_
  exact Node.drawsFrom_congr Value.IsFinite admitsFixed_isFinite s entry.2
    (given entry (places.subset member)) _ _ fun value finite => value.isFinite_points_iff finite

theorem exportTree_standard_bound :
    let chart : Node := { Node.bare "c" "Chart" [] with props := [("binding", .text "sales")] }
    let tree : Tree := { nodes := [("c", chart)], rootId := none }
    let data : Value := .object [("sales", .list [.int 7, .double (.ofDecimal false 25 (-1))])]
    let options : ExportOptions :=
      { showsData := true, embedsData := true, inlinesAssets := some false }
    ∃ result, (offline.exportTree tree data options).outcome = .ok result ∧
      ∃ config, readWith standardNames
        (Document.configText result.components data options offline.settings) = .ok config := by
  intro chart tree data options
  have checked : bindingFindings (compile (offline.surroundings options data)
      (offline.prepare options tree).1) data = .ok [] :=
    Attempt.eq_ok_of_toOption _ _ (by decide +kernel)
  obtain ⟨result, ok, -⟩ := offline.exists_result tree data options [] rfl (by decide) (by decide)
    (by decide) checked
  have given : ∀ entry ∈ tree.nodes, Fields.All Value.IsFinite entry.2.props := by
    simp [tree, chart, Value.IsFinite]
  have half : (Double.ofDecimal false 25 (-1)).isFinite = true := by decide +kernel
  have sample : data.All Value.IsFinite := by
    simp [data, Value.IsFinite, Value.int, Value.double, Number.isFinite, half]
  obtain ⟨entries, places, -, standard, numbers⟩ :=
    offline.exportTree_standard_iff tree data options result (by decide) given sample (by decide) ok
  have drawn : ((Own.pointSettings (offline.surroundings options data) chart).toOption.all fun settings =>
      settings.all fun value => value.points.all Number.isFinite) = true := by decide +kernel
  refine ⟨result, ok, standard.mpr (numbers.mpr fun entry member _ _ settings read value inside => ?_)⟩
  have listed : entry ∈ tree.nodes := places.subset member
  obtain rfl := List.mem_singleton.mp listed
  have finite := Own.all_pointSettings Value.IsFinite admitsFixed_isFinite _ chart settings
    (given ("c", chart) List.mem_cons_self) read value inside
  rw [read] at drawn
  exact (value.isFinite_points_iff finite).mp
    (List.all_eq_true.mp (List.all_eq_true.mp drawn value inside))

-- The text spells a number beyond all doubles, and the browser refuses the whole configuration for it.
theorem exportTree_not_standard :
    let chart : Node := { Node.bare "c" "Chart" [] with props := [("dataPoints", .text "1, 1e999")] }
    let tree : Tree := { nodes := [("c", chart)], rootId := none }
    (∀ entry ∈ tree.nodes, Fields.All Value.IsFinite entry.2.props) ∧
      ∃ result, (offline.exportTree tree .null {}).outcome = .ok result ∧
        ¬ (∀ component ∈ result.components, Fields.All Value.IsFinite component.props) ∧
        ∀ config, readWith standardNames
          (Document.configText result.components .null {} offline.settings) ≠ .ok config := by
  intro chart tree
  have given : ∀ entry ∈ tree.nodes, Fields.All Value.IsFinite entry.2.props := by
    simp [tree, chart, Value.IsFinite]
  obtain ⟨result, ok, -⟩ := offline.exists_result tree .null {} [] rfl (by decide) (by decide)
    (by decide) rfl
  obtain ⟨components, -⟩ := offline.exportTree_eq tree .null {} result ok
  have infinite : ¬ (∀ component ∈ result.components, Fields.All Value.IsFinite component.props) := by
    let s := offline.surroundings {} .null
    have kept := Own.all_components_iff Value.IsFinite admitsFixed_isFinite s chart rfl
      (given ("c", chart) List.mem_cons_self)
    have read : Own.pointSettings s chart = .ok [.text "1, 1e999"] := rfl
    have only : result.components = (Own.ofNode s chart).components := components.trans rfl
    rw [only, kept]
    intro draws
    have finite := draws rfl (by decide +kernel) _ read _ List.mem_cons_self
      (.double (.infinite false)) (by decide +kernel)
    exact Bool.false_ne_true finite
  refine ⟨given, result, ok, infinite, fun config read => infinite ?_⟩
  exact (Document.configText_standard_iff _ .null {} offline.settings (by simp [Value.IsFinite])
    (by decide)).mp ⟨config, read⟩

end Exporter

end ReportCompiler
