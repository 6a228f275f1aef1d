import ReportCompiler.Proofs.Export.Outcome
import ReportCompiler.Proofs.Text.Trimming
import ReportCompiler.Service.Basic

/-!
Headers of downloads. The name in the header never breaks out of its quotes. Whether the header can be sent depends
on what the title keeps: letters of any script and blanks of any kind stay in the name, also those that no header
can hold.
-/

namespace ReportCompiler

open ReportCompiler.Text

namespace Text

/-- A map that keeps blanks apart from other characters can be done before or after trimming. -/
theorem trimChars_map (f : Char → Char) (same : ∀ c, isBlank (f c) = isBlank c) (chars : List Char) :
    trimChars (chars.map f) = (trimChars chars).map f := by
  have left (chars : List Char) : trimLeft (chars.map f) = (trimLeft chars).map f := by
    rw [trimLeft, List.dropWhile_map, trimLeft]
    exact congrArg (List.map f) (congrArg (fun p => List.dropWhile p chars) (funext same))
  rw [trimChars, trimRight, left, ← List.map_reverse, left, ← List.map_reverse]
  rfl

end Text

namespace Service

/-! ### Names of files -/

/-- A character as it stands in the name of a file. -/
def safeChar (c : Char) : Char := if isSafe c then c else '_'

theorem isSafe_safeChar (c : Char) : isSafe (safeChar c) = true := by
  unfold safeChar
  split
  · assumption
  · decide

theorem isBlank_safeChar (c : Char) : isBlank (safeChar c) = isBlank c := by
  unfold safeChar
  split
  · rfl
  · next unsafe_ =>
      have solid : isBlank c = false := by
        refine Bool.eq_false_iff.mpr fun blank => unsafe_ ?_
        simp [isSafe, blank]
      rw [solid]
      decide

theorem fileName_eq (title : String) :
    fileName title =
      if isBlankText title then "Report" else String.ofList ((trim title).toList.map safeChar) := by
  have trimmed : trim (String.ofList (title.toList.map safeChar)) =
      String.ofList ((trim title).toList.map safeChar) := by
    rw [trim, String.toList_ofList, trimChars_map safeChar isBlank_safeChar, trim, String.toList_ofList]
  have blank : String.ofList ((trim title).toList.map safeChar) = "" ↔ isBlankText title = true := by
    rw [String.ofList_eq_empty_iff, List.map_eq_nil_iff, String.toList_eq_nil_iff, trim_eq_empty_iff]
  have whole : fileName title =
      if trim (String.ofList (title.toList.map safeChar)) == "" then "Report"
      else trim (String.ofList (title.toList.map safeChar)) := rfl
  rw [whole, trimmed]
  simp only [beq_iff_eq, blank]

theorem isSafe_of_mem_fileName (title : String) : ∀ c ∈ (fileName title).toList, isSafe c = true := by
  rw [fileName_eq]
  split
  · have default : "Report".toList.all isSafe = true := by decide
    exact List.all_eq_true.mp default
  · rw [String.toList_ofList, List.forall_mem_map]
    exact fun c _ => isSafe_safeChar c

theorem fileName_ne_empty (title : String) : fileName title ≠ "" := by
  rw [fileName_eq]
  split
  · decide
  · next filled =>
      rw [Ne, String.ofList_eq_empty_iff, List.map_eq_nil_iff, String.toList_eq_nil_iff, trim_eq_empty_iff]
      exact filled

/-! ### The header -/

/-- A character that a header can hold: it is in Latin-1 and ends no line. -/
structure FitsHeader (c : Char) : Prop where
  latin1 : c.toNat < 256
  inLine : c ≠ '\r' ∧ c ≠ '\n'

instance : DecidablePred FitsHeader := fun c =>
  decidable_of_iff (c.toNat < 256 ∧ c ≠ '\r' ∧ c ≠ '\n') ⟨fun ⟨latin1, inLine⟩ => ⟨latin1, inLine⟩, fun fits => ⟨fits.latin1, fits.inLine⟩⟩

def IsSendable (value : String) : Prop := ∀ c ∈ value.toList, FitsHeader c

instance : DecidablePred IsSendable := fun value => List.decidableBAll FitsHeader value.toList

/-- What the name of a file keeps of the title can stand in a header. -/
def KeepsSendable (title : String) : Prop := ∀ c ∈ (trim title).toList, isSafe c = true → FitsHeader c

instance : DecidablePred KeepsSendable := fun title =>
  List.decidableBAll (fun c => isSafe c = true → FitsHeader c) (trim title).toList

/-- A single name stands in quotes, and nothing in it ends the quotes or changes what follows it. -/
structure HasOneName (value : String) (name : String) : Prop where
  quoted : value = "attachment; filename=\"" ++ name ++ "\""
  nonempty : name ≠ ""
  closed : '"' ∉ name.toList
  literal : '\\' ∉ name.toList

theorem hasOneName_of_safe (name : String) (nonempty : name ≠ "") (safe : ∀ c ∈ name.toList, isSafe c = true) :
    HasOneName ("attachment; filename=\"" ++ name ++ ".html\"") (name ++ ".html") where
  quoted := by
    have ending : ".html\"" = ".html" ++ "\"" := by decide
    rw [ending, ← String.append_assoc, ← String.append_assoc]
  nonempty := by simp [nonempty]
  closed := by
    intro inside
    have known : '"' ∈ name.toList := by simpa using inside
    exact absurd (safe _ known) (by decide)
  literal := by
    intro inside
    have known : '\\' ∈ name.toList := by simpa using inside
    exact absurd (safe _ known) (by decide)

theorem isSendable_quoted_iff (name : String) :
    IsSendable ("attachment; filename=\"" ++ name ++ ".html\"") ↔ IsSendable name := by
  have before : IsSendable "attachment; filename=\"" := by decide +kernel
  have after : IsSendable ".html\"" := by decide +kernel
  rw [IsSendable, String.toList_append, String.toList_append, List.forall_mem_append, List.forall_mem_append]
  exact ⟨fun fits => fits.1.2, fun fits => ⟨⟨before, fits⟩, after⟩⟩

theorem fitsHeader_safeChar_iff (c : Char) : FitsHeader (safeChar c) ↔ (isSafe c = true → FitsHeader c) := by
  unfold safeChar
  split
  · next kept => simp [kept]
  · next replaced => simp [replaced, show FitsHeader '_' by decide]

/-- The header of a download can be sent exactly when everything fits that the name keeps of the title. -/
theorem isSendable_disposition_iff (title : String) :
    IsSendable (disposition title) ↔ KeepsSendable title := by
  refine (isSendable_quoted_iff (fileName title)).trans ?_
  rw [fileName_eq, KeepsSendable]
  split
  · next blank =>
      rw [(trim_eq_empty_iff title).mpr blank]
      have default : IsSendable "Report" := by decide +kernel
      exact ⟨fun _ _ none_ => (List.not_mem_nil none_).elim, fun _ => default⟩
  · rw [IsSendable, String.toList_ofList, List.forall_mem_map]
    exact forall₂_congr fun c _ => fitsHeader_safeChar_iff c

theorem isLatin1_of_isSendable (value : String) (sendable : IsSendable value) : isLatin1 value = true :=
  List.all_eq_true.mpr fun c member => decide_eq_true (sendable c member).latin1

theorem disposition_hasOneName (title : String) : HasOneName (disposition title) (fileName title ++ ".html") :=
  hasOneName_of_safe (fileName title) (fileName_ne_empty title) (isSafe_of_mem_fileName title)

/-! ### Answers to exports -/

/-- The request asks an endpoint for an export, and nothing keeps the service from running it. -/
inductive Runs (e : Exporter) (request : Request) : ExportOptions → Run ExportResult → Prop where
  | tree (wanted : TreeExport) (post : request.method = "POST")
      (path : beforeFirst '?' request.path = "/api/v1/export/")
      (read : request.content.read TreeExport.read = .valid wanted)
      (filled : wanted.tree.nodes.isEmpty = false)
      (small : tooLarge? e.settings wanted.tree.nodes.length = none) :
      Runs e request wanted.options (e.exportTree wanted.tree wanted.data wanted.options)
  | pages (wanted : PagesExport) (post : request.method = "POST")
      (path : beforeFirst '?' request.path = "/api/v1/export/pages")
      (read : request.content.read PagesExport.read = .valid wanted)
      (filled : wanted.pages.isEmpty = false)
      (small : tooLarge? e.settings
        ((wanted.pages.map fun page => page.canvas.nodes.length).foldr (· + ·) 0) = none) :
      Runs e request wanted.options (e.exportPages wanted.pages wanted.data wanted.options)

theorem response_exchange (e : Exporter) (request : Request) :
    (exchange e request).response =
      match (route e request (beforeFirst '?' request.path)).answer with
      | .error _ => internalError
      | .ok response => response := by
  unfold exchange
  cases answered : (route e request (beforeFirst '?' request.path)).answer <;> simp only [answered]

theorem response_of_runs (e : Exporter) (request : Request) (options : ExportOptions) (run : Run ExportResult)
    (runs : Runs e request options run) (result : ExportResult) (ok : run.outcome = .ok result) :
    (exchange e request).response =
      match download options.filename result with
      | .error _ => internalError
      | .ok response => response := by
  rw [response_exchange]
  cases runs with
  | tree wanted post path read filled small =>
      have routed : route e request "/api/v1/export/" = exportTree e request.content := by
        rw [route, post]
        rfl
      rw [path, routed, exportTree, read]
      simp only [filled, small, Work.ofExport, ok, Bool.false_eq_true, if_false]
  | pages wanted post path read filled small =>
      have routed : route e request "/api/v1/export/pages" = exportPages e request.content := by
        rw [route, post]
        rfl
      rw [path, routed, exportPages, read]
      simp only [filled, small, Work.ofExport, ok, Bool.false_eq_true, if_false]

/-- The response brings the document as a download, under a header that can be sent. -/
structure Response.Brings (response : Response) (html value : String) : Prop where
  status : response.status = 200
  document : response.body = .html html
  header : ("content-disposition", value) ∈ response.headers
  sendable : IsSendable value

theorem download_of_isSendable (title : String) (result : ExportResult) (fits : IsSendable (disposition title)) :
    ∃ response, download title result = .ok response ∧ response.Brings result.html (disposition title) := by
  refine ⟨_, if_pos (isLatin1_of_isSendable _ fits), ?_⟩
  exact { status := rfl, document := rfl, header := List.mem_cons_self, sendable := fits }

theorem download_of_not_latin1 (title : String) (result : ExportResult) (outside : isLatin1 (disposition title) = false) :
    download title result = .error .notLatin1 :=
  if_neg (by rw [outside]; exact Bool.false_ne_true)

/-- Whatever the title, the header of a download has one quoted name. An export that gives a document is answered
with it, under a header that can be sent, exactly when every letter, digit and blank that the name keeps of the title
is in Latin-1 and ends no line. -/
theorem exchange_brings_iff (e : Exporter) (request : Request) (options : ExportOptions) (run : Run ExportResult)
    (runs : Runs e request options run) (result : ExportResult) (ok : run.outcome = .ok result) :
    HasOneName (disposition options.filename) (fileName options.filename ++ ".html") ∧
      (IsSendable (disposition options.filename) ↔ KeepsSendable options.filename) ∧
      ((exchange e request).response.Brings result.html (disposition options.filename) ↔
        KeepsSendable options.filename) := by
  have sendable := isSendable_disposition_iff options.filename
  refine ⟨disposition_hasOneName options.filename, sendable, Iff.trans ?_ sendable⟩
  constructor
  · exact Response.Brings.sendable
  · intro fits
    obtain ⟨response, downloaded, brings⟩ := download_of_isSendable options.filename result fits
    have answered := response_of_runs e request options run runs result ok
    simp only [downloaded] at answered
    rw [answered]
    exact brings

/-- Asks for an export of one text under a title. -/
def titled (title : String) : Request :=
  { method := "POST"
    path := "/api/v1/export/"
    content := .value (.object [
      ("tree", .object [("t", .object [("type", .text "Text"), ("props", .object [("text", .text "x")])])]),
      ("options", .object [("filename", .text title)])]) }

def titledTree : Tree :=
  { nodes := [("t", { Node.bare "t" "Text" [] with props := [("text", .text "x")] })], rootId := none }

theorem titledTree_exports (options : ExportOptions) (lenient : options.isStrict = false) :
    ∃ result, (Exporter.offline.exportTree titledTree .null options).outcome = .ok result := by
  obtain ⟨result, ok, -⟩ := Exporter.offline.exists_result titledTree .null options [] lenient (by decide) (by decide)
    (by decide) rfl
  exact ⟨result, ok⟩

theorem exchange_brings_accents :
    let request := titled "  Été/2024 \"x\" "
    let options : ExportOptions := { filename := "Été/2024 \"x\"" }
    let run := Exporter.offline.exportTree titledTree .null options
    Runs Exporter.offline request options run ∧
      ∃ result, run.outcome = .ok result ∧
        (exchange Exporter.offline request).response.Brings result.html
          "attachment; filename=\"Été_2024 _x_.html\"" := by
  intro request options run
  have runs : Runs Exporter.offline request options run :=
    .tree { tree := titledTree, data := .null, options } rfl (by decide) rfl rfl rfl
  obtain ⟨result, ok⟩ := titledTree_exports options rfl
  have brings := (exchange_brings_iff Exporter.offline request options run runs result ok).2.2.mpr (by decide +kernel)
  have value : disposition options.filename = "attachment; filename=\"Été_2024 _x_.html\"" := by decide +kernel
  rw [value] at brings
  exact ⟨runs, result, ok, brings⟩

-- Letters outside Latin-1 stay in the name, and the finished document is lost.
theorem exchange_loses_document :
    let request := titled "報告"
    let options : ExportOptions := { filename := "報告" }
    let run := Exporter.offline.exportTree titledTree .null options
    Runs Exporter.offline request options run ∧ (∃ result, run.outcome = .ok result) ∧
      (exchange Exporter.offline request).response = internalError ∧ ¬ IsSendable (disposition options.filename) := by
  intro request options run
  have runs : Runs Exporter.offline request options run :=
    .tree { tree := titledTree, data := .null, options } rfl (by decide) rfl rfl rfl
  obtain ⟨result, ok⟩ := titledTree_exports options rfl
  refine ⟨runs, ⟨result, ok⟩, ?_, ?_⟩
  · have unsent := download_of_not_latin1 options.filename result (by decide +kernel)
    have answered := response_of_runs Exporter.offline request options run runs result ok
    simp only [unsent] at answered
    exact answered
  · rw [isSendable_disposition_iff]
    decide +kernel

end Service

end ReportCompiler
