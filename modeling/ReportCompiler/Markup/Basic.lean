import ReportCompiler.Value.Display

/-!
Markup as a tree and its text. Content and attribute values are escaped on the way in, so that a
character of the data never acts as markup; `verbatim` and `asWritten` are for text that is
markup already.
-/

namespace ReportCompiler

open ReportCompiler.Text

/-- An attribute, its value as it stands between the quotes. -/
structure Attribute where
  name : String
  source : String
deriving DecidableEq, Repr

inductive Markup where
  | verbatim (source : String)
  | element (tag : String) (attributes : List Attribute) (children : List Markup)
  /-- An element that has no content. -/
  | single (tag : String) (attributes : List Attribute)
deriving Repr, Inhabited

namespace Markup

def escapeChar (c : Char) : String :=
  if c == '&' then "&amp;"
  else if c == '<' then "&lt;"
  else if c == '>' then "&gt;"
  else if c == '"' then "&quot;"
  else if c == '\'' then "&#039;"
  else String.singleton c

def escape (text : String) : String := expand escapeChar text

/-- The plain text of a value, escaped; nothing for null. -/
def escapeValue (value : Value) : String := if value.isNull then "" else escape value.plain

def text (content : String) : Markup := verbatim (escape content)

def value (content : Value) : Markup := verbatim (escapeValue content)

def escaped (name content : String) : Attribute := { name, source := escape content }

def asWritten (name source : String) : Attribute := { name, source }

/-- An attribute that is left out when its value is null or empty. -/
def optional (name : String) : Value → List Attribute
  | .null => []
  | .text "" => []
  | content => [{ name, source := escapeValue content }]

/-! ### Text -/

def attributeText (a : Attribute) : String := " " ++ a.name ++ "=\"" ++ a.source ++ "\""

def openTag (tag : String) (attributes : List Attribute) : String :=
  "<" ++ tag ++ String.join (attributes.map attributeText)

mutual

def write : Markup → String
  | verbatim source => source
  | element tag attributes children =>
      openTag tag attributes ++ ">" ++ writeAll children ++ "</" ++ tag ++ ">"
  | single tag attributes => openTag tag attributes ++ " />"

def writeAll : List Markup → String
  | [] => ""
  | node :: rest => write node ++ writeAll rest

end

theorem writeAll_append (first second : List Markup) :
    writeAll (first ++ second) = writeAll first ++ writeAll second := by
  induction first with
  | nil => simp [writeAll]
  | cons node rest ih => simp [writeAll, ih, String.append_assoc]

theorem escape_append (first second : String) :
    escape (first ++ second) = escape first ++ escape second :=
  expand_append escapeChar first second

end Markup

end ReportCompiler
