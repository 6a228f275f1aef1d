import ReportCompiler.Value.Numeric
import ReportCompiler.Widget.Basic

/-!
Tables. A table with row data shows its cells; one without shows placeholder rows. Columns that fit
none of the data give way to the columns of the data.
-/

namespace ReportCompiler

open ReportCompiler.Text

namespace Widget

namespace Table

structure Column where
  key : String
  label : String
deriving DecidableEq, Repr, Inhabited

def Column.named (name : String) : Column := { key := name, label := name }

/-! ### Columns -/

/-- A column from an object with a key and a label, either of which stands in for the other, or from
any other value as its name. A column without a key is none. -/
def column? (value : Value) : Option Column :=
  let column : Column :=
    match value with
    | .object fields =>
        let key := ((Fields.get fields "key").orElse (Fields.get fields "label")).display
        { key, label := ((Fields.get fields "label").orElse (.text key)).display }
    | value => .named value.display
  if column.key == "" then none else some column

/-- Names divided by commas; blank ones are left out. -/
def namesOfText (text : String) : List Value :=
  (((split ',' text).map trim).filter fun name => name != "").map .text

/-- The column definitions in a value. -/
def definitions (columns : Value) : Except Fault (List Value) :=
  match columns with
  | .text s => .ok (namesOfText s)
  | value => if value.isPresent then value.items? else .ok []

/-- The columns that suit the first row: its own, where none of those given occurs in it. -/
def suited (columns : List Column) : Value → List Column
  | .object fields =>
      if columns.any fun column => Fields.has fields column.key then columns
      else fields.map fun field => .named field.1
  | .list items =>
      if columns.isEmpty then
        (List.range items.length).map fun index =>
          { key := toString index, label := "Column " ++ toString (index + 1) }
      else columns
  | _ => columns

def columns (value : Value) (rows : List Value) : Except Fault (List Column) := do
  let given := (← definitions value).filterMap column?
  match rows with
  | first :: _ => return suited given first
  | [] => return given

/-! ### Cells -/

/-- The text of a row in the column at `index`: by key in an object, by place in a list, and any other
row fills the first cell only. -/
def cell (row : Value) (column : Column) (index : Nat) : String :=
  match row with
  | .object fields => (Fields.get fields column.key).display
  | .list items =>
      match items[index]? with
      | some item => item.display
      | none => ""
  | value => if index = 0 then value.display else ""

def cells (columns : List Column) (row : Value) : List String :=
  columns.mapIdx fun index column => cell row column index

def placeholderRow (width index : Nat) : List String :=
  List.replicate width ("Data " ++ toString (index + 1))

/-- The number of placeholder rows: the whole part of a number, none if it is negative. -/
def placeholderCount (rows : Value) : Except Fault Nat :=
  match rows.number? with
  | none => .ok 0
  | some (.int n) => .ok n.toNat
  | some (.double x) =>
      match x.ratio? with
      | some (num, den) => .ok (num.tdiv den).toNat
      | none => .error .numberTooLarge

/-! ### Markup -/

/-- The three colours of a table. -/
structure Colors where
  header : Value
  row : Value
  border : Value

def borderStyle (colors : Colors) : String :=
  "border: 1px solid " ++ Markup.escapeValue colors.border ++ "; padding: 8px;"

def headerCell (colors : Colors) (column : Column) : Markup :=
  .element "th"
    [Markup.asWritten "style" (borderStyle colors ++ " text-align: left; color: #fff;")]
    [Markup.text column.label]

def bodyCell (colors : Colors) (content : String) : Markup :=
  .element "td" [Markup.asWritten "style" (borderStyle colors ++ " color: #333;")]
    [Markup.text content]

/-- Every other row is grey. -/
def bodyRow (colors : Colors) (index : Nat) (cells : List String) : Markup :=
  let background := if index % 2 = 0 then Markup.escapeValue colors.row else "#f5f5f5"
  .element "tr" [Markup.asWritten "style" ("background: " ++ background ++ ";")]
    (cells.map (bodyCell colors))

def markup (columns : List Column) (rows : List (List String)) (colors : Colors) : Markup :=
  .element "table"
    [Markup.asWritten "class" "report-table",
      Markup.asWritten "style" "width: 100%; border-collapse: collapse; font-size: 14px;"]
    [.element "thead" []
        [.element "tr"
          [Markup.asWritten "style"
            ("background: " ++ Markup.escapeValue colors.header ++ ";")]
          (columns.map (headerCell colors))],
      .element "tbody" [] (rows.mapIdx (bodyRow colors))]

/-! ### The widget -/

def defaults : Fields :=
  [("columns", .list [.text "Column 1", .text "Column 2", .text "Column 3"]), ("rows", .int 3),
    ("headerColor", .text "#1a1a2e"), ("rowColor", .text "#ffffff"),
    ("borderColor", .text "#e0e0e0"), ("binding", .text ""), ("width", .int 400),
    ("height", .int 150)]

def carriedNames : List String :=
  ["columns", "rows", "headerColor", "rowColor", "borderColor", "binding"]

/-- Columns and rows of a table: its row data, or placeholders. -/
def content (props : Fields) : Except Fault (List Column × List (List String)) := do
  match props.get "data" with
  | .list data =>
      let shown ← columns (props.get "columns") data
      return (shown, data.map (cells shown))
  | _ =>
      let shown ← columns (props.get "columns") []
      let count ← placeholderCount (props.get "rows")
      return (shown, (List.range count).map (placeholderRow shown.length))

def draw (id : String) (props : Fields) : Except Fault Markup := do
  let (shown, rows) ← content props
  let colors : Colors :=
    { header := props.get "headerColor", row := props.get "rowColor",
      border := props.get "borderColor" }
  return frame .table id props
    (Style.combine [Style.position props, "overflow: auto; box-sizing: border-box"]) []
    [markup shown rows colors]

end Table

end Widget

end ReportCompiler
