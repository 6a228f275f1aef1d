import ReportCompiler.Fault
import ReportCompiler.Value.Display

/-!
The printed page: its size, its margins in millimetres, and the rules for print and for the preview of
the page on the screen.
-/

namespace ReportCompiler

open ReportCompiler.Text

inductive PageSize where
  | a4
  | letter
deriving DecidableEq, Repr, Inhabited

namespace PageSize

def name : PageSize → String
  | a4 => "A4"
  | letter => "Letter"

def all : List PageSize := [a4, letter]

def ofName? (name : String) : Option PageSize := all.find? fun size => size.name == name

/-- Width in millimetres. -/
def width : PageSize → String
  | a4 => "210"
  | letter => "215.9"

/-- Height in millimetres. -/
def height : PageSize → String
  | a4 => "297"
  | letter => "279.4"

end PageSize

/-- Something for each side of a page, clockwise from the top. -/
structure Sides (length : Type) where
  top : length
  right : length
  bottom : length
  left : length
deriving DecidableEq, Repr, Inhabited

namespace Sides

def toList {length : Type} (sides : Sides length) : List length :=
  [sides.top, sides.right, sides.bottom, sides.left]

def map {length other : Type} (f : length → other) (sides : Sides length) : Sides other :=
  { top := f sides.top, right := f sides.right, bottom := f sides.bottom, left := f sides.left }

def uniform {length : Type} (value : length) : Sides length :=
  { top := value, right := value, bottom := value, left := value }

def names : Sides String := { top := "top", right := "right", bottom := "bottom", left := "left" }

/-- The sides of an object, each of which must be there. -/
def ofFields? (fields : Fields) : Except Fault (Sides Value) := do
  let side (key : String) : Except Fault Value :=
    match fields.lookup key with
    | some value => .ok value
    | none => .error (.unknownKey key)
  return { top := ← side names.top, right := ← side names.right, bottom := ← side names.bottom,
           left := ← side names.left }

end Sides

namespace PageSize

def marginText (margins : Sides Value) : String :=
  join " " (margins.toList.map fun side => side.cssText ++ "mm")

/-- The rules for a page of this size. -/
def rules (size : PageSize) (margins : Sides Value) : String :=
  join "\n"
    ["@page \x7b",
      "      size: " ++ size.width ++ "mm " ++ size.height ++ "mm;",
      "      margin: " ++ marginText margins ++ ";",
      "    \x7d",
      "",
      "    @media print \x7b",
      "      body \x7b",
      "        -webkit-print-color-adjust: exact !important;",
      "        print-color-adjust: exact !important;",
      "      \x7d",
      "",
      "      .no-print \x7b",
      "        display: none !important;",
      "      \x7d",
      "",
      "      .page-break \x7b",
      "        page-break-before: always;",
      "      \x7d",
      "",
      "      .avoid-break \x7b",
      "        page-break-inside: avoid;",
      "      \x7d",
      "",
      "      #report \x7b",
      "        width: 100%;",
      "      \x7d",
      "    \x7d",
      "",
      "    @media screen \x7b",
      "      body \x7b",
      "        background: #f0f0f0;",
      "      \x7d",
      "",
      "      #report \x7b",
      "        max-width: " ++ size.width ++ "mm;",
      "        min-height: " ++ size.height ++ "mm;",
      "        margin: 20px auto;",
      "        background: #fff;",
      "        box-shadow: 0 2px 10px rgba(0, 0, 0, 0.1);",
      "      \x7d",
      "    \x7d"]

/-- The rules for a page size given by name and margins given as an object. -/
def rulesOf (name : String) (margins : Fields) : Except Fault String := do
  match ofName? name with
  | some size => return size.rules (← Sides.ofFields? margins)
  | none => throw (.unknownKey name)

end PageSize

end ReportCompiler
