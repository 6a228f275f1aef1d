import ReportCompiler.Number.Reader
import ReportCompiler.Value.Basic

/-!
Paths into sample data: keys divided by points, with an optional `data.` in front. A number picks an
item of a list and `length` gives its size. A path that leads nowhere finds null.
-/

namespace ReportCompiler

open ReportCompiler.Text

namespace Path

/-- The path without blanks around it and without the leading `data.`. -/
def normalize (path : String) : String :=
  let trimmed := trim path
  if startsWith trimmed "data." then dropFront 5 trimmed else trimmed

/-- One step into a list or an object. -/
inductive Step where
  | field (key : String)
  | item (index : Nat)
deriving DecidableEq, Repr

/-- A value with the steps that lead to it; a value that was computed has no place in the data. -/
structure Found where
  value : Value
  place : Option (List Step)
deriving Inhabited

def Found.nothing : Found := { value := .null, place := none }

def Found.root (data : Value) : Found := { value := data, place := some [] }

def Found.count (size : Nat) : Found := { value := .int size, place := none }

/-- A value one step further. -/
def Found.next (at_ : Found) (step : Step) (value : Value) : Found :=
  { value, place := at_.place.map fun steps => steps ++ [step] }

/-- A part that looks like digits must be made of decimal digits. -/
def index? (part : String) : Except Fault (Option Nat) :=
  if part != "" && part.toList.all isDigitLike then
    match Reader.natural? part.toList with
    | some index => .ok (some index)
    | none => .error (.badNumber part)
  else .ok none

def step (part : String) (current : Found) : Except Fault Found :=
  match current.value with
  | .object fields => .ok (current.next (.field part) (Fields.get fields part))
  | .list items =>
      if part == "length" then .ok (.count items.length)
      else do
        match ← index? part with
        | some index =>
            match items[index]? with
            | some item => return current.next (.item index) item
            | none => return .nothing
        | none => return .nothing
  | _ => .ok .nothing

/-- The parts of a path, walked from left to right. -/
def walk : List String → Found → Except Fault Found
  | [], current => .ok current
  | part :: rest, current => do walk rest (← step part current)

def find (path : String) (data : Value) : Except Fault Found :=
  if path == "" || data.isNull then .ok .nothing
  else walk (split '.' (normalize path)) (.root data)

def resolve (path : String) (data : Value) : Except Fault Value :=
  (find path data).map Found.value

/-- The value of a path that is itself a value; nothing is found where no path is given. -/
def resolveValue (path data : Value) : Except Fault Value :=
  match path with
  | .text s => resolve s data
  | _ => if !path.isPresent || data.isNull then .ok .null else .error .notText

end Path

end ReportCompiler
