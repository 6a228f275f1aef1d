import ReportCompiler.CommandLine.Basic
import ReportCompiler.Settings.Payload
import Std.Time.Zoned

/-!
The program. It reads the files that its arguments mention, follows the command line, writes the document
and says what there is to say. It fetches nothing, so external images keep their addresses.
-/

open ReportCompiler

namespace ReportCompiler.CommandLine

/-- The settings that the environment gives, under small or capital names. -/
def environmentFields : IO Fields := do
  let mut fields := []
  for name in Settings.names do
    for spelling in [name, name.toUpper] do
      if let some text ← IO.getEnv spelling then fields := fields ++ [(spelling, Value.text text)]
  return fields

/-- What lies at a path. -/
def look (path : String) : IO Place := do
  try
    if ← (← IO.FS.realPath path).isDir then return .directory
    else return .file (← IO.FS.readFile path)
  catch _ => return .nothing

/-- Texts in an argument that may be paths: the argument, and what follows an equals sign or the short
name of an option. -/
def paths (argument : String) : List String :=
  let attached := (Grammar.attachedValue argument).2.toList
  let short := if argument.startsWith "-" then [Text.dropFront 2 argument] else []
  argument :: attached ++ short

/-- The folder as far as the arguments mention it, with the directories around what they mention. -/
def folderAround (arguments : List String) : IO Folder := do
  let mut folder : Folder := { files := [], directories := [] }
  for path in arguments.flatMap paths do
    let steps := FileName.resolved path
    match ← look path with
    | .file text => folder := { folder with files := folder.files ++ [(steps, text)] }
    | .directory => folder := { folder with directories := steps :: folder.directories }
    | .nothing => pure ()
    let parent := steps.dropLast
    if let .directory ← look (Text.join "/" parent) then
      folder := { folder with directories := parent :: folder.directories }
  return folder

/-- The present moment where the program runs. -/
def present : IO Moment := do
  let now ← Std.Time.PlainDateTime.now
  let date : Date :=
    { year := now.date.year.toInt.toNat, month := now.date.month.val.toNat,
      day := now.date.day.val.toNat }
  return {
    date, hour := now.time.hour.val.toNat, minute := now.time.minute.val.toNat,
    second := now.time.second.val.toNat, microsecond := now.time.nanosecond.val.toNat / 1000,
    offset := none }

/-- Writes what an outcome holds; a file that cannot be written is a crash. -/
def carryOut (outcome : Outcome) : IO Outcome := do
  try
    for (path, text) in outcome.written do IO.FS.writeFile path text
    return outcome
  catch error =>
    return {
      ending := .crashed (.fault (.raised (toString error)))
      errors := outcome.errors }

def tell (time : String) (outcome : Outcome) : IO Unit := do
  for line in outcome.errors do IO.eprintln (line.write time)
  for line in outcome.output do IO.println (line.write time)
  if let .crashed crash := outcome.ending then IO.eprintln crash.message

end ReportCompiler.CommandLine

open ReportCompiler.CommandLine in
def main (arguments : List String) : IO UInt32 := do
  match Settings.read (← environmentFields) [] with
  | .error (.unreadable name) =>
      IO.eprintln ("the setting " ++ name ++ " is not JSON")
      return 1
  | .error (.refused issues) =>
      IO.eprintln (Crash.refused issues).message
      return 1
  | .ok settings =>
      let client : Asset.Client := fun _ => .unreachable "the network is not available"
      let exporter : Exporter := { settings, client, now := ← present, duration := .int 0 }
      let folder ← folderAround arguments
      let start ← IO.monoMsNow
      let outcome ← carryOut (run exporter folder arguments)
      let time := toString ((← IO.monoMsNow) - start) ++ ".0"
      tell time outcome
      return outcome.ending.code.toUInt32
