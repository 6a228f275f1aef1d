import ReportCompiler.Value.Basic

/-!
JSON text of values. One writer serves two styles: the compact one keeps characters as they are, the
embedded one sorts keys, spaces out separators and escapes everything that could end a script element
or a quoted attribute. Numbers that are not finite are written by name, and dates as quoted text.
-/

namespace ReportCompiler

open ReportCompiler.Text

/-- The decisions of one JSON style. -/
structure JsonStyle where
  betweenItems : String
  afterKey : String
  sortsKeys : Bool
  escape : Char → String

namespace JsonStyle

def codeUnit (unit : Nat) : String := "\\u" ++ String.ofList (hexPadded 4 unit)

/-- A code point as one escape, or as a surrogate pair beyond the basic plane. -/
def unicodeEscape (code : Nat) : String :=
  if code < 0x10000 then codeUnit code
  else
    let offset := code - 0x10000
    codeUnit (0xd800 + offset / 0x400) ++ codeUnit (0xdc00 + offset % 0x400)

/-- Escapes that every style needs. -/
def escapeControl (c : Char) : String :=
  if c == '"' then "\\\""
  else if c == '\\' then "\\\\"
  else if c == '\n' then "\\n"
  else if c == '\r' then "\\r"
  else if c == '\t' then "\\t"
  else if c.toNat = 8 then "\\b"
  else if c.toNat = 12 then "\\f"
  else if c.toNat < 32 then unicodeEscape c.toNat
  else String.singleton c

/-- Characters that mean something to HTML are escaped too, and everything outside ASCII. -/
def escapeEmbedded (c : Char) : String :=
  if c == '<' || c == '>' || c == '&' || c == '\'' || 126 < c.toNat then unicodeEscape c.toNat
  else escapeControl c

def compact : JsonStyle :=
  { betweenItems := ",", afterKey := ":", sortsKeys := false, escape := escapeControl }

def embedded : JsonStyle :=
  { betweenItems := ", ", afterKey := ": ", sortsKeys := true, escape := escapeEmbedded }

def quote (style : JsonStyle) (text : String) : String :=
  "\"" ++ expand style.escape text ++ "\""

/-- Fields already written, in the order of the style. -/
def arrange (style : JsonStyle) (fields : List (String × String)) : List (String × String) :=
  if style.sortsKeys then fields.mergeSort fun a b => !precedes b.1 a.1 else fields

def objectText (style : JsonStyle) (fields : List (String × String)) : String :=
  "\x7b" ++ join style.betweenItems
    ((style.arrange fields).map fun field => style.quote field.1 ++ style.afterKey ++ field.2) ++ "\x7d"

end JsonStyle

/-- Numbers as JSON writes them: a double always shows a point or an exponent. -/
def Number.jsonText : Number → String
  | .int n => toString n
  | .double .nan => "NaN"
  | .double (.infinite negative) => if negative then "-Infinity" else "Infinity"
  | .double x => x.text

namespace Value

mutual

def json (style : JsonStyle) : Value → String
  | null => "null"
  | bool b => if b then "true" else "false"
  | number n => n.jsonText
  | text s => style.quote s
  | date d => style.quote d.text
  | moment m => style.quote (m.textWith " ")
  | list items => "[" ++ join style.betweenItems (jsonItems style items) ++ "]"
  | object fields => style.objectText (jsonFields style fields)

def jsonItems (style : JsonStyle) : List Value → List String
  | [] => []
  | item :: rest => json style item :: jsonItems style rest

def jsonFields (style : JsonStyle) : List (String × Value) → List (String × String)
  | [] => []
  | (key, value) :: rest => (key, json style value) :: jsonFields style rest

end

theorem jsonItems_eq_map (style : JsonStyle) (items : List Value) :
    jsonItems style items = items.map (json style) := by
  induction items with
  | nil => rfl
  | cons item rest ih => simp [jsonItems, ih]

theorem jsonFields_eq_map (style : JsonStyle) (fields : Fields) :
    jsonFields style fields = fields.map fun field => (field.1, json style field.2) := by
  induction fields with
  | nil => rfl
  | cons field rest ih => simp [jsonFields, ih]

mutual

/-- Whether a date stands anywhere in the value. -/
def holdsDate : Value → Bool
  | date _ => true
  | moment _ => true
  | list items => holdsDateItems items
  | object fields => holdsDateFields fields
  | _ => false

def holdsDateItems : List Value → Bool
  | [] => false
  | item :: rest => holdsDate item || holdsDateItems rest

def holdsDateFields : List (String × Value) → Bool
  | [] => false
  | (_, value) :: rest => holdsDate value || holdsDateFields rest

end

/-- Text for a script element. Dates have no place in it. -/
def embeddedJson (value : Value) : Except Fault String :=
  if value.holdsDate then .error .notWritable else .ok (value.json .embedded)

end Value

end ReportCompiler
