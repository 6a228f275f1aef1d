import ReportCompiler.Document.Basic
import ReportCompiler.Proofs.Text.Search
import ReportCompiler.Proofs.Value.Plain

/-!
The configuration can be taken out of every document again: its opening tag occurs nowhere before it, the
next closing tag ends it, and its text is read back as the configuration that was written.
-/

namespace ReportCompiler

open ReportCompiler.Text

namespace Document

/-- The text of the configuration's element: what comes after the first opening tag, up to the next
closing tag. -/
def island? (document : String) : Option String :=
  (afterFirst? configTag.toList document.toList).bind fun rest =>
    (upToFirst? "</script>".toList rest).map String.ofList

/-! ### Lines that cannot fake the opening tag -/

/-- What tells the opening tag from the tags of the other scripts. -/
def tagStart : List Char := ['<', 's', 'c', 'r', 'i', 'p', 't', ' ', 't']

theorem tagStart_prefix : tagStart <+: configTag.toList := by decide

/-- The line holds no start of the opening tag. -/
def IsClear (line : String) : Prop := occurs tagStart line.toList = false

instance (line : String) : Decidable (IsClear line) :=
  inferInstanceAs (Decidable (occurs tagStart line.toList = false))

theorem isClear_append (first second : String) (apart : isApart tagStart first.toList = true) :
    IsClear (first ++ second) ↔ IsClear second := by
  rw [IsClear, String.toList_append, occurs_append_of_isApart _ _ _ apart, IsClear]

/-- Without an opening angle bracket no tag can start. -/
theorem isApart_of_noTag (text : String) (noTag : '<' ∉ text.toList) :
    isApart tagStart text.toList = true :=
  isApart_of_not_mem '<' _ _ noTag

theorem isClear_of_noTag (text : String) (noTag : '<' ∉ text.toList) : IsClear text := by
  have clear := (isClear_append text "" (isApart_of_noTag text noTag)).mpr (by decide)
  rwa [String.append_empty] at clear

theorem AreHarmless.noTag {text : String} (harmless : AreHarmless text.toList) : '<' ∉ text.toList :=
  fun member => harmless '<' member List.mem_cons_self

/-- Text without tags between two fixed pieces. -/
theorem isClear_between (before text after : String) (apart : isApart tagStart before.toList = true)
    (noTag : '<' ∉ text.toList) (clear : IsClear after) : IsClear (before ++ text ++ after) := by
  rw [String.append_assoc, isClear_append _ _ apart, isClear_append _ _ (isApart_of_noTag text noTag)]
  exact clear

theorem isClear_join_lines (lines : List String) (clear : ∀ line ∈ lines, IsClear line) :
    IsClear (join "\n" lines) := by
  rw [IsClear, occurs_join_lines tagStart (by decide) (by decide), List.any_eq_false]
  intro line member
  rw [clear line member]
  exact Bool.false_ne_true

/-! ### The parts of the document before the configuration -/

theorem noTag_escape (text : String) : '<' ∉ (escape text).toList := by
  have each (c : Char) : '<' ∉ (escapeChar c).toList := by
    unfold escapeChar
    split_ifs with amp less greater quote apostrophe
    · decide
    · decide
    · decide
    · decide
    · decide
    · rw [String.toList_singleton, List.mem_singleton]
      exact fun same => less (beq_iff_eq.mpr same.symm)
  rw [escape, expand, String.toList_join, List.mem_flatMap]
  rintro ⟨image, member, inside⟩
  obtain ⟨c, -, rfl⟩ := List.mem_map.mp member
  exact each c inside

theorem areHarmless_rules (size : PageSize) (margins : Sides Number) :
    AreHarmless (size.rules (margins.map .number)).toList := by
  have side (n : Number) : AreHarmless ((Value.number n).cssText ++ "mm").toList := by
    rw [String.toList_append, areHarmless_append]
    exact ⟨(Number.areNumerals_text n).areHarmless, by decide⟩
  have sides : AreHarmless (PageSize.marginText (margins.map .number)).toList := by
    refine areHarmless_join " " _ (by decide) ?_
    intro part member
    simp only [Sides.map, Sides.toList, List.map_cons, List.map_nil, List.mem_cons,
      List.not_mem_nil, or_false] at member
    rcases member with rfl | rfl | rfl | rfl <;> exact side _
  have measures : AreHarmless size.width.toList ∧ AreHarmless size.height.toList := by
    cases size <;> decide
  obtain ⟨width, height⟩ := measures
  refine areHarmless_join "\n" _ (by decide) ?_
  simp only [List.forall_mem_cons, String.toList_append, areHarmless_append]
  -- Fixed text is taken apart by rewriting; evaluating it would be slow.
  and_intros
  all_goals first
    | with_reducible assumption
    | with_reducible exact List.forall_mem_nil _
    | rw [String.toList_ofList]; decide +kernel

theorem isClear_chartLoader (places : List String) : IsClear (join "\n" (chartLoader places)) := by
  have urls : IsClear ("  var cdnUrls = " ++ (textList places).json .embedded ++ ";") :=
    isClear_between _ _ _ (by decide) (AreHarmless.noTag (Value.areHarmless_json _)) (by decide)
  refine isClear_join_lines _ ?_
  simp only [chartLoader, List.forall_mem_cons]
  and_intros
  all_goals first
    | with_reducible assumption
    | with_reducible exact List.forall_mem_nil _
    | rw [IsClear, String.toList_ofList]; decide +kernel

theorem isClear_chartScript (options : ExportOptions) (settings : Settings) :
    IsClear (chartScript options settings) := by
  unfold chartScript
  split
  · exact isClear_between _ _ _ (by decide) (noTag_escape settings.chartScript) (by decide)
  · exact isClear_chartLoader _

theorem isClear_head (options : ExportOptions) (settings : Settings) :
    ∀ line ∈ head options settings, IsClear line := by
  have title : IsClear ("  <title>" ++ escape options.filename ++ "</title>") :=
    isClear_between _ _ _ (by decide) (noTag_escape options.filename) (by decide)
  have rules : IsClear ("    " ++ options.pageSize.rules (options.margins.map .number)) := by
    rw [isClear_append _ _ (by decide)]
    exact isClear_of_noTag _ (AreHarmless.noTag (areHarmless_rules options.pageSize options.margins))
  have script : IsClear ("  " ++ chartScript options settings) := by
    rw [isClear_append _ _ (by decide)]
    exact isClear_chartScript options settings
  simp only [head, baseStyles, List.forall_mem_append, List.forall_mem_cons]
  and_intros
  all_goals first
    | with_reducible assumption
    | with_reducible exact List.forall_mem_nil _
    | rw [IsClear, String.toList_ofList]; decide +kernel

theorem isClear_watermarkLines (text : String) : ∀ line ∈ watermarkLines text, IsClear line := by
  unfold watermarkLines
  split
  · decide
  · have shown : IsClear ("  " ++ escape text) := by
      rw [isClear_append _ _ (by decide)]
      exact isClear_of_noTag _ (noTag_escape text)
    simp only [watermark, List.forall_mem_append, List.forall_mem_cons]
    and_intros
    all_goals first
      | with_reducible assumption
      | with_reducible exact List.forall_mem_nil _
      | rw [IsClear, String.toList_ofList]; decide +kernel

/-! ### The island -/

/-- The lines before the opening tag, with what stands before it on its own line. -/
def linesBefore (body : String) (options : ExportOptions) (settings : Settings) : List String :=
  head options settings ++ ["<body>", "  <div id=\"report\">", body, "  </div>"]
    ++ watermarkLines (watermarkText options settings) ++ ["  "]

def linesAfter : List String := ["", "  <script>", Program.text, "  </script>", "</body>", "</html>", ""]

theorem occurs_linesBefore (body : String) (options : ExportOptions) (settings : Settings)
    (free : contains body configTag = false) :
    occurs configTag.toList (join "\n" (linesBefore body options settings)).toList = false := by
  have clear (line : String) (isClear : IsClear line) : occurs configTag.toList line.toList = false :=
    occurs_eq_false_of_prefix tagStart_prefix isClear
  rw [occurs_join_lines _ (by decide) (by decide), List.any_eq_false]
  simp only [Bool.not_eq_true, linesBefore, List.forall_mem_append, List.forall_mem_cons]
  exact ⟨⟨⟨fun line member => clear line (isClear_head options settings line member),
    clear _ (by decide), clear _ (by decide), free, clear _ (by decide), by simp⟩,
    fun line member => clear line (isClear_watermarkLines _ line member)⟩,
    clear _ (by decide), by simp⟩

theorem page_eq (body configText : String) (options : ExportOptions) (settings : Settings) :
    page body configText options settings =
      join "\n" (linesBefore body options settings) ++ (configTag ++ configText ++ "</script>") ++ "\n"
        ++ join "\n" linesAfter := by
  unfold linesBefore
  rw [← join_lines_cut _ _ _ _ (by decide), page]
  simp only [linesAfter, String.append_assoc, List.append_assoc]

/-- The configuration's text is what a reader of the document finds in its element. -/
theorem island?_page (body configText : String) (options : ExportOptions) (settings : Settings)
    (free : contains body configTag = false) (noTag : '<' ∉ configText.toList) :
    island? (page body configText options settings) = some configText := by
  have absent := occurs_linesBefore body options settings free
  have tag : configTag.toList = '<' :: configTag.toList.tail := by decide
  have close : "</script>".toList = '<' :: "</script>".toList.tail := by decide
  have once : '<' ∉ configTag.toList.tail := by decide
  rw [page_eq]
  generalize join "\n" (linesBefore body options settings) = before at *
  unfold island?
  simp only [String.toList_append, List.append_assoc]
  rw [tag] at absent ⊢
  rw [afterFirst?_append '<' _ _ _ once absent, Option.bind_some, close,
    upToFirst?_append '<' _ _ _ noTag, Option.map_some, String.ofList_toList]

/-! ### The configuration -/

theorem isPlain_config (components : List Component) (data : Value) (options : ExportOptions)
    (settings : Settings) (parts : ∀ component ∈ components, (Value.object component.props).IsPlain)
    (plain : data.IsPlain) (margins : ∀ margin ∈ options.margins.toList, margin.IsHeld) :
    (Value.object (config components data options settings)).IsPlain := by
  have entries : (Value.list (components.map Component.value)).IsPlain := by
    rw [Value.isPlain_list, List.forall_mem_map]
    intro component member
    rw [Component.value, Value.isPlain_object]
    simp only [List.forall_mem_cons]
    exact ⟨by simp, trivial, trivial, parts component member, List.forall_mem_nil _⟩
  have sides : (Value.object (Sides.names.toList.zip (options.margins.toList.map .number))).IsPlain := by
    simp only [Sides.toList, List.forall_mem_cons] at margins
    obtain ⟨top, right, bottom, left, -⟩ := margins
    rw [Value.isPlain_object]
    simp only [Sides.names, Sides.toList, List.map_cons, List.map_nil, List.zip_cons_cons,
      List.zip_nil_right, List.forall_mem_cons]
    exact ⟨by decide, top, right, bottom, left, List.forall_mem_nil _⟩
  have run : (Value.object (runFields options settings)).IsPlain := by
    rw [Value.isPlain_object]
    simp only [runFields, List.forall_mem_cons]
    exact ⟨by simp, trivial, sides, trivial, trivial, trivial, trivial, trivial, List.forall_mem_nil _⟩
  have sample : (if options.embedsData then data else .null).IsPlain := by
    split
    · exact plain
    · trivial
  rw [Value.isPlain_object]
  simp only [config, List.forall_mem_cons]
  exact ⟨by simp, run, entries, sample, List.forall_mem_nil _⟩

/-- Every document gives its configuration back: its text has no character that means something to HTML,
and is read as the configuration with the keys of every object in order. -/
theorem assemble_island (body : String) (components : List Component) (data : Value)
    (options : ExportOptions) (settings : Settings) (free : contains body configTag = false)
    (parts : ∀ component ∈ components, (Value.object component.props).IsPlain)
    (plain : data.IsPlain) (margins : ∀ margin ∈ options.margins.toList, margin.IsHeld) :
    ∃ document island, assemble body components data options settings = .ok document ∧
      island? document = some island ∧ AreHarmless island.toList ∧
      JsonReader.read island =
        .ok (Value.object (config components data options settings)).inKeyOrder := by
  have config_plain := isPlain_config components data options settings parts plain margins
  unfold assemble
  generalize Value.object (config components data options settings) = value at *
  have harmless := value.areHarmless_json
  refine ⟨page body (value.json .embedded) options settings, value.json .embedded, ?_,
    island?_page body _ options settings free (AreHarmless.noTag harmless), harmless, ?_⟩
  · rw [Value.embeddedJson, config_plain.holdsDate]
    rfl
  · rw [← config_plain.readBack_eq]
    exact JsonReader.readWith_json _ JsonReader.usual_allNames value config_plain.isFinite

/-- An entry whose text asks for the end of the element. -/
def closingEntry : Component :=
  { id := "t", type := "text", props := [("text", .text "</script>"), ("size", .double (.ofInt 3))] }

/-- A document whose title, data and entries all hold tags of their own. -/
theorem assemble_island_closing :
    ∃ document island,
      assemble "<div id=\"t\"></div>" [closingEntry] (.object [("a", .text "<script type=")])
        { filename := "<script>", embedsData := true } {} = .ok document ∧
      island? document = some island ∧ AreHarmless island.toList ∧
      JsonReader.read island = .ok (Value.object (config [closingEntry]
        (.object [("a", .text "<script type=")]) { filename := "<script>", embedsData := true }
        {})).inKeyOrder := by
  have three : (Double.ofInt 3).IsHeld := by
    have value : Double.ofInt 3 = .finite false (3 * 2 ^ 51) (-51) := by decide
    rw [value]
    exact ⟨by decide, by decide, by decide, .inr (by decide)⟩
  refine assemble_island _ _ _ _ _ (by decide) ?_ ?_ ?_
  · rw [List.forall_mem_singleton, Value.isPlain_object]
    simp only [closingEntry, List.forall_mem_cons]
    exact ⟨by decide, trivial, three, List.forall_mem_nil _⟩
  · rw [Value.isPlain_object]
    simp only [List.forall_mem_cons]
    exact ⟨by decide, trivial, List.forall_mem_nil _⟩
  · simp only [Sides.uniform, Sides.toList, List.forall_mem_cons]
    exact ⟨trivial, trivial, trivial, trivial, List.forall_mem_nil _⟩

end Document

end ReportCompiler
