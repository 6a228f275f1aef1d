import ReportCompiler.Proofs.Markup.Elements
import ReportCompiler.Proofs.Widget.Rendering

/-!
Tables read back from their markup: the labels over the columns and the cells row by row, each as the text that
it was made from.
-/

namespace ReportCompiler

namespace Widget

namespace Table

open Markup

/-! ### Reading a table -/

/-- What a table shows. -/
structure Grid where
  labels : List String
  rows : List (List String)
deriving DecidableEq

/-- The text of a cell, which holds nothing else. -/
def cell? (tag : String) (part : Part) : Option String := (part.inside? tag).bind Part.text?

/-- The cells of a row, which holds nothing else. -/
def cells? (tag : String) (part : Part) : Option (List String) :=
  (part.inside? "tr").bind fun cells => cells.mapM (cell? tag)

def labels? (part : Part) : Option (List String) :=
  match part.inside? "thead" with
  | some [row] => cells? "th" row
  | _ => none

def rows? (part : Part) : Option (List (List String)) :=
  (part.inside? "tbody").bind fun rows => rows.mapM (cells? "td")

/-- A table is one row of labels and then rows of cells, with nothing between or around them. -/
def grid? (part : Part) : Option Grid :=
  match part.inside? "table" with
  | some [head, body] => do return { labels := ← labels? head, rows := ← rows? body }
  | _ => none

/-- The table in markup that is nothing else. -/
def readGrid? (html : String) : Option Grid :=
  match read? html with
  | some [table] => grid? table
  | _ => none

/-- The table that is all there is in the element of a widget. -/
def readFramedGrid? (html : String) : Option Grid :=
  match read? html with
  | some [.element "div" _ [table]] => grid? table
  | _ => none

/-! ### Cells, rows and the table -/

theorem cell?_element (tag : String) (attributes : List Attribute) (content : String) :
    cell? tag (.element tag attributes (partsAll [text content])) = some content := by
  rw [cell?, Part.inside?, if_pos rfl, partsAll, partsAll, List.append_nil, Option.bind_some, text?_text]

theorem labels?_head (columns : List Column) (colors : Colors) (attributes : List Attribute) :
    labels? (.element "thead" [] (partsAll [.element "tr" attributes (columns.map (headerCell colors))])) =
      some (columns.map Column.label) := by
  have each : (partsAll (columns.map (headerCell colors))).mapM (cell? "th") = some (columns.map Column.label) := by
    apply mapM_partsAll
    rw [List.forall₂_map_left_iff, List.forall₂_map_right_iff, List.forall₂_same]
    exact fun column _ => ⟨_, rfl, cell?_element "th" _ column.label⟩
  exact each

theorem cells?_row (colors : Colors) (index : Nat) (cells : List String) :
    ∃ part, (bodyRow colors index cells).parts = [part] ∧ cells? "td" part = some cells := by
  have each : (partsAll (cells.map (bodyCell colors))).mapM (cell? "td") = some cells := by
    apply mapM_partsAll
    rw [List.forall₂_map_left_iff, List.forall₂_same]
    exact fun content _ => ⟨_, rfl, cell?_element "td" _ content⟩
  exact ⟨_, rfl, each⟩

theorem rows?_body (colors : Colors) (rows : List (List String)) :
    rows? (.element "tbody" [] (partsAll (rows.mapIdx (bodyRow colors)))) = some rows := by
  have each : (partsAll (rows.mapIdx (bodyRow colors))).mapM (cells? "td") = some rows := by
    apply mapM_partsAll
    rw [List.forall₂_iff_get]
    refine ⟨List.length_mapIdx, fun index first second => ?_⟩
    rw [List.get_eq_getElem, List.get_eq_getElem, List.getElem_mapIdx]
    exact cells?_row colors index _
  exact each

theorem grid?_markup (columns : List Column) (rows : List (List String)) (colors : Colors) :
    ∃ part, (markup columns rows colors).parts = [part] ∧
      grid? part = some { labels := columns.map Column.label, rows } := by
  refine ⟨_, rfl, ?_⟩
  have head := labels?_head columns colors
    [asWritten "style" ("background: " ++ escapeValue colors.header ++ ";")]
  have body := rows?_body colors rows
  show (do return { labels := ← labels? _, rows := ← rows? _ } : Option Grid) = _
  rw [head, body]
  rfl

theorem readGrid?_markup (columns : List Column) (rows : List (List String)) (colors : Colors) :
    readGrid? (markup columns rows colors).write = some { labels := columns.map Column.label, rows } := by
  have drawn := markup_isFrom columns rows colors
  have named : (markup columns rows colors).All Token.IsNamed :=
    fun token member => isNamed_of_isFrom .table token (drawn token member)
  obtain ⟨part, alone, made⟩ := grid?_markup columns rows colors
  rw [readGrid?, read?_write _ named (markup_isEnclosed columns rows colors), alone]
  exact made

/-! ### The widget -/

theorem content_of_list (props : Fields) (data : List Value) (held : props.get "data" = .list data) :
    content props = (columns (props.get "columns") data).map fun shown => (shown, data.map (cells shown)) := by
  rw [content, held]
  dsimp only
  cases columns (props.get "columns") data <;> rfl

theorem readFramedGrid?_draw (id : String) (props : Fields) (tree : Markup) (shown : List Column)
    (rows : List (List String)) (drawn : draw id props = .ok tree) (made : content props = .ok (shown, rows)) :
    readFramedGrid? tree.write = some { labels := shown.map Column.label, rows } := by
  have vocabulary := draw_isFrom id props tree drawn
  have named : tree.All Token.IsNamed :=
    fun token member => isNamed_of_isFrom .table token (vocabulary token member)
  have read := read?_write tree named (draw_isEnclosed id props tree drawn)
  rw [draw, made] at drawn
  rw [readFramedGrid?, read, ← (Attempt.pure_eq_ok_iff _ _).mp drawn]
  obtain ⟨part, alone, whole⟩ := grid?_markup shown rows
    { header := props.get "headerColor", row := props.get "rowColor", border := props.get "borderColor" }
  rw [frame, parts, partsAll, partsAll, alone]
  exact whole

/-- The markup of a table holds its labels and its cells, each once and in its place, whatever they and the colours
are. A table of data shows a row for every item and in it a cell for every column; where its columns cannot be told,
it is not drawn. -/
theorem cells_of_markup :
    (∀ columns rows colors,
      readGrid? (markup columns rows colors).write = some { labels := columns.map Column.label, rows }) ∧
    ∀ now id given data, Fields.get given "data" = .list data →
      isHidden (resolve Table.defaults given) = false →
      match columns ((resolve Table.defaults given).get "columns") data with
      | .error fault => (Registry.standard.renderer .table).render now id given = .error fault
      | .ok shown => ∃ result, (Registry.standard.renderer .table).render now id given = .ok result ∧
          readFramedGrid? result.html = some
            { labels := shown.map Column.label,
              rows := data.map fun row => shown.mapIdx fun index column => cell row column index } := by
  refine ⟨readGrid?_markup, fun now id given data held seen => ?_⟩
  have resolved : (resolve Table.defaults given).get "data" = .list data := by
    rw [resolve, List.append_assoc, Fields.get_withoutNulls_append _ _ _ (by rw [held]; rfl), held]
  have filled := content_of_list _ data resolved
  cases made : columns ((resolve Table.defaults given).get "columns") data with
  | error fault =>
      have failed : draw id (resolve Table.defaults given) = .error fault := by
        rw [draw, filled, made]
        rfl
      exact render_eq_error Kind.table.renderer now id given fault seen failed
  | ok shown =>
      have content : content (resolve Table.defaults given) = .ok (shown, data.map (cells shown)) := by
        rw [filled, made]
        rfl
      obtain ⟨tree, drawn⟩ : ∃ tree, draw id (resolve Table.defaults given) = .ok tree := by
        rw [draw, content]
        exact ⟨_, rfl⟩
      obtain ⟨component, entered⟩ :
          ∃ component, Kind.table.entry id (resolve Table.defaults given) = .ok component := ⟨_, rfl⟩
      have rendered : (Registry.standard.renderer .table).render now id given =
          .ok { html := tree.write, component } :=
        (render_eq_ok_iff Kind.table.renderer now id given _ seen).mpr ⟨tree, drawn, rfl, entered⟩
      have read := readFramedGrid?_draw id _ tree shown _ drawn content
      exact ⟨_, rendered, read⟩

/-- Labels and cells that look like markup, a row that is too short and one that is no row. -/
theorem cells_of_markup_escaped :
    let data : List Value :=
      [.object [("<b>", .text "x & y"), ("\"q\"", .text "</td>")], .list [.text "'"], .text "&amp;"]
    let given : Fields := [("columns", .list [.text "<b>", .text "\"q\""]), ("data", .list data)]
    Fields.get given "data" = .list data ∧ isHidden (resolve Table.defaults given) = false ∧
      ∃ result, (Registry.standard.renderer .table).render default "t" given = .ok result ∧
        readFramedGrid? result.html = some
          { labels := ["<b>", "\"q\""], rows := [["x & y", "</td>"], ["'", ""], ["&amp;", ""]] } := by
  intro data given
  have seen : isHidden (resolve Table.defaults given) = false := by decide
  have made : columns ((resolve Table.defaults given).get "columns") data = .ok [.named "<b>", .named "\"q\""] := rfl
  have read := cells_of_markup.2 default "t" given data rfl seen
  rw [made] at read
  obtain ⟨result, rendered, grid⟩ := read
  exact ⟨rfl, seen, result, rendered, grid⟩

end Table

end Widget

end ReportCompiler
