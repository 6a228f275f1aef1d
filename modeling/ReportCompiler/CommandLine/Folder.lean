import ReportCompiler.Fault
import ReportCompiler.Text.Basic

/-!
Names of files and the folder that a command works in: which files it holds with which text, and which
directories.
-/

namespace ReportCompiler

open ReportCompiler.Text

namespace FileName

/-- The steps of a path; the first one is a slash where the path begins at the root. -/
def steps (path : String) : List String :=
  let named := (split '/' path).filter fun step => step != "" && step != "."
  if startsWith path "/" then "/" :: named else named

/-- The path without empty steps. -/
def normalized (path : String) : String :=
  match steps path with
  | [] => "."
  | "/" :: rest => "/" ++ join "/" rest
  | steps => join "/" steps

/-- The last step. -/
def name (path : String) : String :=
  match (steps path).reverse with
  | last :: _ => if last == "/" then "" else last
  | [] => ""

/-- The name without its last ending, if something stands before the point and after it. -/
def stem (path : String) : String :=
  let chars := (name path).toList.reverse
  let ending := chars.takeWhile (· != '.')
  match chars.dropWhile (· != '.') with
  | _ :: c :: rest =>
      if ending.isEmpty then name path else String.ofList (c :: rest).reverse
  | _ => name path

/-- The steps with every way back taken. -/
def resolved (path : String) : List String :=
  ((steps path).foldl (fun (taken : List String) (step : String) =>
    match step, taken with
    | "..", last :: before => if last == ".." then step :: taken else before
    | _, _ => step :: taken) []).reverse

end FileName

namespace CommandLine

structure Folder where
  files : List (List String × String)
  directories : List (List String)
deriving Repr

/-- What a path leads to. -/
inductive Place where
  | file (text : String)
  | directory
  | nothing
deriving DecidableEq, Repr

namespace Folder

def ofFiles (files : List (String × String)) : Folder :=
  { files := files.map fun (path, text) => (FileName.resolved path, text), directories := [] }

/-- Whether some file lies below, or the steps only lead outwards. -/
def isDirectory (folder : Folder) (steps : List String) : Bool :=
  steps.all (fun step => step == "..") || steps == ["/"] || folder.directories.contains steps
    || folder.files.any fun (path, _) => steps.isPrefixOf path && steps != path

def reach (folder : Folder) (steps : List String) : Place :=
  match folder.files.lookup steps with
  | some text => .file text
  | none => if folder.isDirectory steps then .directory else .nothing

/-- A file cannot be reached by a path that ends like that of a directory. -/
def find (folder : Folder) (path : String) : Place :=
  if path == "" then .nothing
  else
    match folder.reach (FileName.resolved path) with
    | .file text => if endsWith path "/" then .nothing else .file text
    | place => place

/-- Why no file can be written at a path. -/
def obstacle? (folder : Folder) (path : String) : Option Fault :=
  let steps := FileName.resolved path
  match folder.reach steps, folder.reach steps.dropLast with
  | .directory, _ => some (.isADirectory path)
  | _, .directory => none
  | _, .file _ => some (.notADirectory path)
  | _, .nothing => some (.noSuchDirectory path)

end Folder

end CommandLine

end ReportCompiler
