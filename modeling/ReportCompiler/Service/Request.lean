import ReportCompiler.Export.Options
import ReportCompiler.Template.Payload
import ReportCompiler.Value.Reader

/-!
Requests to the service. What a request carries is read as JSON once, and then as the template, the
sample data and the options of an export.
-/

namespace ReportCompiler

open ReportCompiler.Payload

namespace Service

/-- What a request carries. -/
inductive Content where
  | nothing
  /-- Text that is no JSON from a character on. -/
  | malformed (offset : Nat)
  | value (value : Value)
deriving Repr

def Content.ofText (text : String) : Content :=
  if text == "" then .nothing
  else
    let chars := text.toList
    let chars := if chars.head? == some (Char.ofNat 0xfeff) then chars.tail else chars
    match JsonReader.read (String.ofList chars) with
    | .ok v => .value v
    | .error error => .malformed error.offset

structure Request where
  method : String
  path : String
  content : Content
deriving Repr

/-- Reads what a request carries; null counts as nothing. -/
def Content.read (reader : Payload.Reader α) (content : Content) : Checked α :=
  match content with
  | .nothing => .fail ["body"] .missing
  | .value .null => .fail ["body"] .missing
  | .malformed offset => .fail ["body", toString offset] .malformed
  | .value v => (reader v).within ["body"]

/-! ### Exports -/

structure TreeExport where
  tree : Tree
  data : Value
  options : ExportOptions

structure PagesExport where
  pages : List Page
  data : Value
  options : ExportOptions

/-- A template to validate. -/
structure Validation where
  tree : Tree
  data : Value

def treeField (fields : Fields) : Checked Tree :=
  Payload.optional ["tree"] Tree.empty Tree.ofPayload fields

def dataField (fields : Fields) : Checked Value :=
  Payload.optional ["sampleData", "sample_data"] .null .valid fields

def optionsField (fields : Fields) : Checked ExportOptions :=
  Payload.optional ["options"] {} (record true (ExportOptions.ofFields true)) fields

def TreeExport.read : Payload.Reader TreeExport :=
  record true fun fields =>
    (fun tree data options => { tree, data, options : TreeExport })
      <$> treeField fields <*> dataField fields <*> optionsField fields

def PagesExport.read : Payload.Reader PagesExport :=
  record true fun fields =>
    (fun pages data options => { pages, data, options : PagesExport })
      <$> Payload.optional ["pages"] [] (list (Page.ofPayload true)) fields
      <*> dataField fields <*> optionsField fields

def Validation.read : Payload.Reader Validation :=
  record true fun fields =>
    (fun tree data => { tree, data : Validation }) <$> treeField fields <*> dataField fields

end Service

end ReportCompiler
