import ReportCompiler.Text.Case

/-!
The kinds of widgets. Templates call a kind by its name; the markup and the embedded program call it by
the same name in lower case.
-/

namespace ReportCompiler

namespace Widget

inductive Kind where
  | page
  | container
  | spacer
  | divider
  | pageBreak
  | pageNumber
  | image
  | text
  | bulletList
  | dateTime
  | indicator
  | gauge
  | progressBar
  | table
  | chart
deriving DecidableEq, Repr, Inhabited

namespace Kind

/-- All kinds, in the order in which they are listed to users. -/
def all : List Kind :=
  [page, container, spacer, divider, pageBreak, pageNumber, image, text, bulletList, dateTime,
    indicator, gauge, progressBar, table, chart]

def name : Kind → String
  | page => "Page"
  | container => "Container"
  | spacer => "Spacer"
  | divider => "Divider"
  | pageBreak => "PageBreak"
  | pageNumber => "PageNumber"
  | image => "Image"
  | text => "Text"
  | bulletList => "BulletList"
  | dateTime => "DateTime"
  | indicator => "Indicator"
  | gauge => "Gauge"
  | progressBar => "ProgressBar"
  | table => "Table"
  | chart => "Chart"

/-- The name in the markup. -/
def label : Kind → String
  | page => "page"
  | container => "container"
  | spacer => "spacer"
  | divider => "divider"
  | pageBreak => "pagebreak"
  | pageNumber => "pagenumber"
  | image => "image"
  | text => "text"
  | bulletList => "bulletlist"
  | dateTime => "datetime"
  | indicator => "indicator"
  | gauge => "gauge"
  | progressBar => "progressbar"
  | table => "table"
  | chart => "chart"

def ofName? (name : String) : Option Kind := all.find? fun kind => kind.name == name

theorem mem_all (kind : Kind) : kind ∈ all := by cases kind <;> decide

theorem name_of_ofName? {name : String} {kind : Kind} (found : ofName? name = some kind) :
    kind.name = name := by
  have same := List.find?_some found
  exact beq_iff_eq.mp same

theorem label_eq_lower_name (kind : Kind) :
    kind.label = String.ofList (kind.name.toList.map Char.toLower) := by
  cases kind <;> decide

end Kind

end Widget

end ReportCompiler
