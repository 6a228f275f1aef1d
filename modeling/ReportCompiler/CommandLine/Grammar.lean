import ReportCompiler.Text.Quoted
import ReportCompiler.Text.Similarity

/-!
The grammar of a command line. Options have long and short names; some take a value, which follows the
name directly or is the next argument. What is no option is an argument of the command.
-/

namespace ReportCompiler

open ReportCompiler.Text

namespace CommandLine

structure Parameter where
  /-- Long names begin with two hyphens, short ones are a hyphen and one character. -/
  names : List String
  takesValue : Bool
deriving DecidableEq, Repr

/-- The name by which the parameter is known to the commands. -/
def Parameter.key (p : Parameter) : String := p.names.headD ""

/-- Why an argument is no good value of a parameter. -/
inductive BadValue where
  | noSuchFile (path : String)
  | isDirectory (path : String)
  | notListed (value : String) (choices : List String)
  | marginsNotNumbers
  | wrongNumberOfMargins
deriving DecidableEq, Repr

def BadValue.message : BadValue → String
  | noSuchFile path => "File " ++ quote path ++ " does not exist."
  | isDirectory path => "File " ++ quote path ++ " is a directory."
  | notListed value choices =>
      quote value ++ " is not one of " ++ join ", " (choices.map quote) ++ "."
  | marginsNotNumbers => "margins must be numbers in millimetres"
  | wrongNumberOfMargins => "use one value or four values: top,right,bottom,left"

/-- Why a command line cannot be followed. -/
inductive UsageError where
  | missingCommand
  | unknownCommand (name : String)
  | unknownOption (name : String) (similar : List String)
  | valueMissing (name : String)
  | valueNotTaken (name : String)
  | argumentMissing (name : String)
  | extraArguments (arguments : List String)
  /-- The names are those of the parameter. -/
  | badValue (names : List String) (reason : BadValue)
  | invalidJson (path reason : String)
deriving DecidableEq, Repr

namespace UsageError

def suggestion : List String → String
  | [] => ""
  | [name] => " Did you mean " ++ name ++ "?"
  | names => " (Possible options: " ++ join ", " names ++ ")"

def message : UsageError → String
  | missingCommand => "Missing command."
  | unknownCommand name => "No such command " ++ quote name ++ "."
  | unknownOption name similar => "No such option: " ++ name ++ suggestion similar
  | valueMissing name => "Option " ++ quote name ++ " requires an argument."
  | valueNotTaken name => "Option " ++ quote name ++ " does not take a value."
  | argumentMissing name => "Missing argument '" ++ name ++ "'."
  | extraArguments [argument] => "Got unexpected extra argument (" ++ argument ++ ")"
  | extraArguments arguments => "Got unexpected extra arguments (" ++ join " " arguments ++ ")"
  | badValue names reason =>
      "Invalid value for " ++ join " / " (names.map fun name => "'" ++ name ++ "'") ++ ": "
        ++ reason.message
  | invalidJson path reason => "Invalid value: " ++ path ++ " is not valid JSON: " ++ reason

end UsageError

/-! ### Options and arguments -/

/-- The options of a command. -/
structure Grammar where
  parameters : List Parameter
  /-- Whether options may follow arguments. -/
  isMixed : Bool
deriving Repr

/-- An option as it was given; a flag has no value. -/
structure Given where
  parameter : Parameter
  value : Option String
deriving DecidableEq, Repr

namespace Grammar

def isLong (name : String) : Bool := startsWith name "--"

def longNames (g : Grammar) : List String :=
  (g.parameters.flatMap Parameter.names).filter isLong

def find? (g : Grammar) (name : String) : Option Parameter :=
  g.parameters.find? fun p => p.names.contains name

/-- The value of an option that takes one: what is attached to it, or the next argument. -/
def withValue (name : String) (p : Parameter) (attached : Option String) (rest : List String) :
    Except UsageError (Given × List String) :=
  match attached, rest with
  | some value, _ => .ok ({ parameter := p, value := some value }, rest)
  | none, value :: after => .ok ({ parameter := p, value := some value }, after)
  | none, [] => .error (.valueMissing name)

/-- A name and what an equals sign attaches to it. -/
def attachedValue (argument : String) : String × Option String :=
  let name := argument.toList.takeWhile (· != '=')
  match argument.toList.dropWhile (· != '=') with
  | [] => (argument, none)
  | _ :: value => (String.ofList name, some (String.ofList value))

def long (g : Grammar) (argument : String) (rest : List String) :
    Except UsageError (List Given × List String) := do
  let (name, attached) := attachedValue argument
  match (g.find? name).filter fun _ => isLong name with
  | none => throw (.unknownOption name (closest name g.longNames))
  | some p =>
      if p.takesValue then
        let (given, after) ← withValue name p attached rest
        return ([given], after)
      else if attached.isSome then throw (.valueNotTaken name)
      else return ([{ parameter := p, value := none }], rest)

/-- Short names after one hyphen; a value takes all characters that are left. -/
def short (g : Grammar) : List Char → List String → Except UsageError (List Given × List String)
  | [], rest => .ok ([], rest)
  | c :: more, rest => do
      let name := String.ofList ['-', c]
      match g.find? name with
      | none => throw (.unknownOption name [])
      | some p =>
          if p.takesValue then
            let attached := if more.isEmpty then none else some (String.ofList more)
            let (given, after) ← withValue name p attached rest
            return ([given], after)
          else
            let (others, after) ← short g more rest
            return ({ parameter := p, value := none } :: others, after)

/-- Options and arguments, each in their order. -/
def split (g : Grammar) : Nat → List String → Except UsageError (List Given × List String)
  | 0, rest => .ok ([], rest)
  | _, [] => .ok ([], [])
  | fuel + 1, argument :: rest => do
      if argument == "--" then return ([], rest)
      else if startsWith argument "-" && argument != "-" then
        let (given, after) ←
          if isLong argument then g.long argument rest
          else g.short (argument.toList.drop 1) rest
        let (others, arguments) ← split g fuel after
        return (given ++ others, arguments)
      else if g.isMixed then
        let (given, arguments) ← split g fuel rest
        return (given, argument :: arguments)
      else return ([], argument :: rest)

def read (g : Grammar) (arguments : List String) :
    Except UsageError (List Given × List String) :=
  g.split (arguments.length + 1) arguments

end Grammar

/-- Each option once, where it was given first and with the value that it was given last. -/
def settled (given : List Given) : List Given :=
  let parameters := (given.map Given.parameter).eraseDups
  parameters.filterMap fun p => given.reverse.find? fun g => g.parameter == p

end CommandLine

end ReportCompiler
