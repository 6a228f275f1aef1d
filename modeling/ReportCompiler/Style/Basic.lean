import ReportCompiler.Text.Basic
import ReportCompiler.Text.Case
import ReportCompiler.Value.Display
import ReportCompiler.Value.Equality

/-!
Style declarations, `name: value`, joined by semicolons. What is null has no declaration.
-/

namespace ReportCompiler

open ReportCompiler.Text

namespace Style

/-- A declaration's name from a name in camel case. -/
def hyphenated (name : String) : String :=
  lower (expand (fun c => if c.isUpper then "-" ++ String.singleton c else String.singleton c) name)

def declared (name : String) (value : Value) (unit : String) : Option String :=
  if value.isNull then none else some (name ++ ": " ++ value.cssText ++ unit)

/-- Declarations of an object whose keys are names in camel case. -/
def ofFields (styles : Fields) : String :=
  join "; " (styles.filterMap fun field => declared (hyphenated field.1) field.2 "")

/-! ### Position -/

/-- The properties that place a widget: its own name for them, the declaration's, and the unit. -/
def placement : List (String × String × String) :=
  [("x", "left", "px"), ("y", "top", "px"), ("width", "width", "px"), ("height", "height", "px"),
    ("zIndex", "z-index", "")]

def position (props : Fields) : String :=
  join "; " ("position: absolute" :: placement.filterMap fun (key, name, unit) =>
    declared name (props.get key) unit)

/-! ### Fonts and borders -/

/-- How text is set; null where nothing is said. -/
structure Font where
  size : Value := .null
  weight : Value := .null
  family : Value := .null
  slant : Value := .null
  lineHeight : Value := .null
  color : Value := .null
  align : Value := .null

def font (f : Font) : String :=
  join "; " ([declared "font-size" f.size "px", declared "font-weight" f.weight "",
    declared "font-family" f.family "", declared "font-style" f.slant "",
    declared "line-height" f.lineHeight "", declared "color" f.color "",
    declared "text-align" f.align ""].filterMap id)

/-- A border; one of no width, or of the kind `none`, is no border. -/
def border (width kind color : Value) : String :=
  if kind.equal (.text "none") || width.equal (.int 0) then "border: none"
  else "border: " ++ width.cssText ++ "px " ++ kind.plain ++ " " ++ color.plain

/-! ### Merging

Merging style texts. Every name is kept once, in lower case, at the place where it was first given and
with the value given last. Text before the first colon is a name; pieces without a name are dropped.
-/

/-- A name and its value. -/
abbrev Declaration := String × String

def declaration? (piece : String) : Option Declaration :=
  let chars := trimChars piece.toList
  let name := chars.takeWhile (· != ':')
  match chars.dropWhile (· != ':') with
  | _ :: value =>
      if name.isEmpty then none
      else some (lower (String.ofList (trimChars name)), String.ofList (trimChars value))
  | [] => none

def declarations (styles : String) : List Declaration :=
  (split ';' styles).filterMap declaration?

/-- A declaration takes the place of an earlier one of its name, or comes last. -/
def declare (known : List Declaration) (given : Declaration) : List Declaration :=
  if known.any fun declaration => declaration.1 == given.1 then
    known.map fun declaration => if declaration.1 == given.1 then given else declaration
  else known ++ [given]

def merge (given : List Declaration) : List Declaration := given.foldl declare []

def ofDeclarations (declarations : List Declaration) : String :=
  join "; " (declarations.map fun declaration => declaration.1 ++ ": " ++ declaration.2)

def combine (parts : List String) : String :=
  ofDeclarations (merge (parts.flatMap declarations))

/-- Style texts of which some may not be given. -/
def combineGiven (parts : List (Option String)) : String := combine (parts.filterMap id)

end Style

end ReportCompiler
