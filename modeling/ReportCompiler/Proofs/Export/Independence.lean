import ReportCompiler.Export.Session
import ReportCompiler.Proofs.Export.Outcome

/-!
Exports that neither embed nor show their sample data. The data is then compared with the bindings and used
for nothing else: the document, its entries and the decision over a strict export are the same for all data.
-/

namespace ReportCompiler

/-! ### The document -/

theorem Document.assemble_of_not_embedded (body : String) (components : List Component)
    (options : ExportOptions) (settings : Settings) (bare : options.embedsData = false)
    (first second : Value) :
    assemble body components first options settings = assemble body components second options settings := by
  have same : config components first options settings = config components second options settings := by
    simp only [config, bare, Bool.false_eq_true, if_false]
  rw [assemble, assemble, same]

/-! ### Findings about the data -/

theorem unresolvedPaths_warn (data : Value) (id : String) (paths : List Value) (findings : List Finding)
    (checked : unresolvedPaths data id paths = .ok findings) :
    ∀ finding ∈ findings, finding.severity = .warning := by
  induction paths generalizing findings with
  | nil =>
      cases checked
      exact List.forall_mem_nil _
  | cons path rest ih =>
      obtain ⟨found, _, later⟩ := (Attempt.bind_eq_ok_iff _ _ _).mp checked
      obtain ⟨others, read, same⟩ := (Attempt.bind_eq_ok_iff _ _ _).mp later
      have warn := ih others read
      cases same
      split
      · exact List.forall_mem_cons.mpr ⟨rfl, warn⟩
      · exact warn

theorem checkBindings_warn (components : List Component) (data : Value) (findings : List Finding)
    (checked : checkBindings components data = .ok findings) :
    ∀ finding ∈ findings, finding.severity = .warning := by
  obtain ⟨parts, made, same⟩ := (Attempt.bind_eq_ok_iff _ _ _).mp checked
  cases same
  intro finding member
  obtain ⟨part, listed, inside⟩ := List.mem_flatten.mp member
  obtain ⟨component, _, found⟩ := Attempt.mem_of_mapM _ components parts made part listed
  obtain ⟨paths, _, unresolved⟩ := (Attempt.bind_eq_ok_iff _ _ _).mp found
  exact unresolvedPaths_warn data component.id paths part unresolved finding inside

namespace Exporter

theorem bindingFindings_warn (compiled : Compiled) (data : Value) (findings : List Finding)
    (checked : bindingFindings compiled data = .ok findings) :
    ∀ finding ∈ findings, finding.severity = .warning := by
  rw [bindingFindings] at checked
  split at checked
  · cases checked
    exact List.forall_mem_nil _
  · exact checkBindings_warn compiled.components data findings checked

theorem select_errors_of_checked (reports : List Asset.Report) (compiled : Compiled) (data : Value)
    (unresolved : List Finding) (checked : bindingFindings compiled data = .ok unresolved) :
    Severity.error.select (reports.flatMap assetFindings ++ compiled.findings ++ unresolved) =
      Severity.error.select compiled.findings := by
  have none_ : Severity.error.select unresolved = [] := by
    refine List.filter_eq_nil_iff.mpr fun finding member => ?_
    rw [bindingFindings_warn compiled data unresolved checked finding member]
    decide
  rw [List.append_assoc, select_errors, Severity.select, List.filter_append]
  exact (congrArg (_ ++ ·) none_).trans (List.append_nil _)

end Exporter

/-! ### Two runs -/

/-- The documents of two runs are the same where both give one, and no run is refused for errors where the
other is not. -/
structure Run.Agrees (first second : Run ExportResult) : Prop where
  document : ∀ result other, first.outcome = .ok result → second.outcome = .ok other →
    other.html = result.html ∧ other.components = result.components
  gate : ∀ result findings, first.outcome = .ok result → second.outcome ≠ .error (.hasErrors findings)

namespace Exporter

variable (e : Exporter)

/-- What a run that ended well was made of. -/
theorem finish_eq_ok (kind : String) (reports : List Asset.Report) (compiled : Compiled) (data : Value)
    (options : ExportOptions) (result : ExportResult)
    (ok : (e.finish kind reports compiled data options).outcome = .ok result) :
    (options.isStrict && !(Severity.error.select compiled.findings).isEmpty) = false ∧
      Document.assemble compiled.html compiled.components data options e.settings = .ok result.html ∧
      result.components = compiled.components := by
  cases checked : bindingFindings compiled data with
  | error fault =>
      rw [e.finish_of_fault kind reports compiled data options fault checked] at ok
      cases ok
  | ok unresolved =>
      rw [e.finish_of_checked kind reports compiled data options unresolved _ checked rfl,
        select_errors_of_checked reports compiled data unresolved checked] at ok
      split at ok
      · cases ok
      · next accepted =>
          rw [written] at ok
          split at ok
          · cases ok
          · next html assembled =>
              cases ok
              exact ⟨Bool.eq_false_iff.mpr accepted, assembled, rfl⟩

theorem refused_of_finish (kind : String) (reports : List Asset.Report) (compiled : Compiled)
    (data : Value) (options : ExportOptions) (findings : List Finding)
    (refused : (e.finish kind reports compiled data options).outcome = .error (.hasErrors findings)) :
    (options.isStrict && !(Severity.error.select compiled.findings).isEmpty) = true := by
  cases checked : bindingFindings compiled data with
  | error fault =>
      rw [e.finish_of_fault kind reports compiled data options fault checked] at refused
      cases refused
  | ok unresolved =>
      rw [e.finish_of_checked kind reports compiled data options unresolved _ checked rfl,
        select_errors_of_checked reports compiled data unresolved checked] at refused
      split at refused
      · assumption
      · rw [written] at refused
        split at refused <;> cases refused

theorem finish_agrees (kind : String) (reports : List Asset.Report) (compiled : Compiled)
    (options : ExportOptions) (bare : options.embedsData = false) (first second : Value) :
    (e.finish kind reports compiled first options).Agrees (e.finish kind reports compiled second options) where
  document := by
    intro result other ok okToo
    obtain ⟨_, assembled, entries⟩ := e.finish_eq_ok kind reports compiled first options result ok
    obtain ⟨_, assembledToo, entriesToo⟩ := e.finish_eq_ok kind reports compiled second options other okToo
    rw [Document.assemble_of_not_embedded _ _ _ _ bare first second, assembledToo] at assembled
    exact ⟨Except.ok.inj assembled, entriesToo.trans entries.symm⟩
  gate := by
    intro result findings ok refused
    have accepted := (e.finish_eq_ok kind reports compiled first options result ok).1
    rw [e.refused_of_finish kind reports compiled second options findings refused] at accepted
    cases accepted

/-- Without a preview, widgets are rendered as if there were no data. -/
theorem surroundings_of_static (options : ExportOptions) (static : options.showsData = false)
    (first second : Value) : e.surroundings options first = e.surroundings options second := by
  simp only [surroundings, static, Bool.false_eq_true, if_false]

/-- For a client that does not remember, exports are those by the exporter itself. -/
theorem exportTreeWith_client (tree : Tree) (data : Value) (options : ExportOptions) :
    e.exportTreeWith e.client tree data options = e.exportTree tree data options := rfl

theorem exportPagesWith_client (pages : List Page) (data : Value) (options : ExportOptions) :
    e.exportPagesWith e.client pages data options = e.exportPages pages data options := by
  have prepared : (pages.mapM fun page =>
      (do return (page, ← e.prepareWith e.client options page.canvas) : Id (Page × Tree × Asset.Report))).run =
      pages.map fun page => (page, e.prepare options page.canvas) := List.idRun_mapM
  exact congrArg (e.finishPages · data options) prepared

section Clients

variable {σ : Type} (client : Asset.ClientIn (StateM σ)) (start : σ)

/-- Sample data that is neither embedded nor shown leaves no trace in what an export gives, however the
client behaves. -/
theorem export_agrees (options : ExportOptions) (bare : options.embedsData = false)
    (static : options.showsData = false) (first second : Value) :
    (∀ tree, ((e.exportTreeWith client tree first options).run start).1.Agrees
      ((e.exportTreeWith client tree second options).run start).1) ∧
    ∀ pages, ((e.exportPagesWith client pages first options).run start).1.Agrees
      ((e.exportPagesWith client pages second options).run start).1 := by
  have same := e.surroundings_of_static options static first second
  constructor
  · intro tree
    simp only [exportTreeWith, same]
    exact e.finish_agrees "single" _ _ options bare first second
  · intro pages
    simp only [exportPagesWith, finishPages, same]
    exact e.finish_agrees "pages" _ _ options bare first second

end Clients

theorem export_agrees_absent :
    let tree : Tree :=
      { nodes := [("w", { Node.bare "w" "Text" [] with props := [("binding", .text "total")] }),
          ("i", { Node.bare "i" "Image" [] with props := [("src", .text "http://a/b.png")] })],
        rootId := none }
    let run (data : Value) := ((offline.exportTreeWith counting tree data {}).run 0).1
    let data : Value := .object [("total", .int 1)]
    (run data).outcome.isOk = true ∧ (run .null).outcome.isOk = true ∧ (run data).Agrees (run .null) := by
  intro tree run data
  refine ⟨by decide +kernel, by decide +kernel, ?_⟩
  exact (offline.export_agrees counting 0 {} rfl rfl data .null).1 tree

end Exporter

end ReportCompiler
