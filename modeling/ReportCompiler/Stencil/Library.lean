import ReportCompiler.Document.Basic
import ReportCompiler.Stencil.Parser

/-!
A library of stencils, filled in by name. A stencil is read when it is first needed and kept as it was
read. Stencils whose name ends like that of an HTML file escape what is put into them.
-/

namespace ReportCompiler

open ReportCompiler.Text

namespace Stencil

/-- Why a stencil cannot be filled in. -/
inductive Trouble where
  | notFound (name : String)
  | malformed
  /-- A name that nothing was given for. -/
  | undefined
  /-- An attribute that stencils may not look into. -/
  | forbidden
  /-- Stencils that contain each other without end. -/
  | endless
  | fault (fault : Fault)
deriving DecidableEq, Repr

structure Library where
  sources : List (String × String)
  /-- Stencils that were read before; later sources do not change them. -/
  known : List (String × List Node)

namespace Library

def ofSources (sources : List (String × String)) : Library := { sources, known := [] }

def add (library : Library) (name source : String) : Library :=
  { library with sources := (name, source) :: library.sources.filter fun entry => entry.1 != name }

def names (library : Library) : List String :=
  (library.sources.map Prod.fst).mergeSort fun a b => !precedes b a

end Library

/-- Work with a library; what was read stays known even where the work fails. -/
abbrev Work := ExceptT Trouble (StateM Library)

/-- The stencil of a name. -/
def load (name : String) : Work (List Node) := do
  let library ← get
  match library.known.lookup name with
  | some nodes => return nodes
  | none =>
      match library.sources.lookup name with
      | none => throw (.notFound name)
      | some source =>
          match parse? source with
          | none => throw .malformed
          | some nodes =>
              set { library with known := (name, nodes) :: library.known }
              return nodes

/-! ### Expressions -/

inductive Meaning where
  | value (value : Value)
  | markup (source : String)
  | undefined
  | forbidden

/-- Attributes between double underscores belong to no value of a report. -/
def isInner (name : String) : Bool := startsWith name "__" && endsWith name "__"

def attributeOf (name : String) : Meaning → Except Trouble Meaning
  | .undefined => .error .undefined
  | .forbidden => .error .forbidden
  | .markup _ => .ok (if isInner name then .forbidden else .undefined)
  | .value value =>
      if isInner name then .ok .forbidden
      else
        match value with
        | .object fields =>
            match fields.lookup name with
            | some found => .ok (.value found)
            | none => .ok .undefined
        | _ => .ok .undefined

/-- The text that a meaning stands for. -/
def Meaning.text : Meaning → Except Trouble String
  | .value v => .ok v.plain
  | .markup source => .ok source
  | .undefined => .error .undefined
  | .forbidden => .error .forbidden

def Meaning.json : Meaning → Except Trouble String
  | .value v => v.embeddedJson.mapError .fault
  | .markup source => .ok ((Value.text source).json .embedded)
  | _ => .error (.fault .notWritable)

def Meaning.isTrue : Meaning → Except Trouble Bool
  | .value v => .ok v.isPresent
  | .markup source => .ok (source != "")
  | .undefined => .error .undefined
  | .forbidden => .error .forbidden

def Expression.meaning (context : Fields) : Expression → Except Trouble Meaning
  | .constant v => .ok (.value v)
  | .name key =>
      match context.lookup key with
      | some v => .ok (.value v)
      | none => .ok .undefined
  | .attribute e key => do attributeOf key (← e.meaning context)
  | .markup e => do return .markup (← (← e.meaning context).text)
  | .json e => do return .markup (← (← e.meaning context).json)

/-- What is put in for an expression: markup as it is, everything else escaped where the stencil asks
for it. -/
def Expression.output (escapes : Bool) (context : Fields) (e : Expression) :
    Except Trouble String := do
  match ← e.meaning context with
  | .markup source => return source
  | meaning =>
      let text ← meaning.text
      return if escapes then Document.escape text else text

/-- The name of a stencil to put in. -/
def Expression.target (context : Fields) (e : Expression) : Except Trouble String := do
  match ← e.meaning context with
  | .value (.text s) => return s
  | .value _ => throw (.fault .notEnumerable)
  | meaning => meaning.text

/-! ### Filling in -/

mutual

def Node.fill (insert : String → Work String) (escapes : Bool) (context : Fields) :
    Node → Work String
  | .text s => return s
  | .output e => do return ← e.output escapes context
  | .choice condition yes no => do
      if ← (← condition.meaning context).isTrue then fillAll insert escapes context yes
      else fillAll insert escapes context no
  | .inclusion e => do insert (← e.target context)

def fillAll (insert : String → Work String) (escapes : Bool) (context : Fields) :
    List Node → Work String
  | [] => return ""
  | node :: rest => do
      let filled ← node.fill insert escapes context
      return filled ++ (← fillAll insert escapes context rest)

end

/-- Fills in a stencil and the stencils in it, down to a depth. -/
def fillNamed (context : Fields) : Nat → String → Work String
  | 0, _ => throw .endless
  | depth + 1, name => do
      let nodes ← load name
      fillAll (fillNamed context depth) (endsWith name ".html") context nodes

/-- Stencils that do not contain themselves cannot lie deeper than there are stencils. -/
def render (name : String) (context : Fields) : Work String := do
  fillNamed context ((← get).sources.length + 1) name

end Stencil

end ReportCompiler
