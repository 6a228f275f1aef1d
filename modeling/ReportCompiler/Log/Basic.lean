import ReportCompiler.Settings.Basic
import ReportCompiler.Text.Basic
import ReportCompiler.Value.Temporal

/-!
Logs. A record is written when its level reaches the threshold of its logger, as an object with all its
additions or as a line of text without them.
-/

namespace ReportCompiler

open ReportCompiler.Text

namespace Log

inductive Level where
  | debug
  | info
  | warning
  | error
  | critical
deriving DecidableEq, Repr, Inhabited

namespace Level

def name : Level → String
  | debug => "DEBUG"
  | info => "INFO"
  | warning => "WARNING"
  | error => "ERROR"
  | critical => "CRITICAL"

def weight : Level → Nat
  | debug => 10
  | info => 20
  | warning => 30
  | error => 40
  | critical => 50

end Level

/-! ### Thresholds -/

/-- Least weights by name. Some levels have two names, and one name lets everything through. -/
def thresholds : List (String × Nat) :=
  [("CRITICAL", Level.critical.weight), ("FATAL", Level.critical.weight),
    ("ERROR", Level.error.weight), ("WARNING", Level.warning.weight),
    ("WARN", Level.warning.weight), ("INFO", Level.info.weight), ("DEBUG", Level.debug.weight),
    ("NOTSET", 0)]

/-- The capital of a letter that some name of a threshold has. -/
def capital (c : Char) : Char :=
  if c.toNat = 0x131 then 'I' else if c.toNat = 0x17f then 'S' else c.toUpper

def threshold (name : String) : Except Fault Nat :=
  match thresholds.lookup (String.ofList (name.toList.map capital)) with
  | some weight => .ok weight
  | none => .error (.unknownLevel name)

/-- Loggers that are kept at warnings, whatever is wanted of the others. -/
def quiet : List String := ["uvicorn", "uvicorn.access", "httpx", "httpcore"]

/-- Whether a logger is a quiet one or stands below one. -/
def isQuiet (name : String) : Bool :=
  quiet.any fun root => name == root || startsWith name (root ++ ".")

/-- The form and the threshold of a log. -/
structure Setup where
  threshold : Nat
  format : LogFormat
deriving Repr

/-- What is not said is taken from the settings; every format but JSON is text. -/
def Setup.of (settings : Settings) (level format : String) : Except Fault Setup := do
  let wanted := if format == "" then settings.logFormat.name else format
  return {
    threshold := ← Log.threshold (if level == "" then settings.logLevel else level)
    format := if wanted == LogFormat.json.name then .json else .text }

/-! ### Records -/

/-- A logger with the additions that it gives to all its records. -/
structure Logger where
  name : String
  context : Fields
deriving Repr

namespace Logger

/-- A logger without a name of its own is the root. -/
def title (logger : Logger) : String := if logger.name == "" then "root" else logger.name

/-- Later additions win. -/
def withContext (logger : Logger) (more : Fields) : Logger :=
  { logger with context := Fields.ofList (logger.context ++ more) }

def threshold (logger : Logger) (setup : Setup) : Nat :=
  if isQuiet logger.name then Level.warning.weight else setup.threshold

end Logger

structure Record where
  level : Level
  message : String
  additions : Fields
deriving Repr

/-- What every record has, and what no addition may be called. -/
def reserved : List String :=
  ["name", "msg", "args", "levelname", "levelno", "pathname", "filename", "module", "exc_info",
    "exc_text", "stack_info", "lineno", "funcName", "created", "msecs", "relativeCreated", "thread",
    "threadName", "processName", "process", "message", "asctime"]

/-- Additions that are not written: those that a record writes itself, and hidden ones. -/
def isWritten (key : String) : Bool :=
  !(["timestamp", "level", "name", "message"].contains key) && !startsWith key "_"

/-- Dates are written as text. -/
def written : Value → Value
  | .date d => .text d.text
  | .moment m => .text (m.textWith "T")
  | value => value

/-- A record as an object; what the application says of itself wins over additions. -/
def Record.object (settings : Settings) (title stamp : String) (record : Record) : Fields :=
  let additions := (record.additions.filter fun field => isWritten field.1).map
    fun (key, value) => (key, written value)
  Fields.ofList (additions ++
    [("timestamp", .text stamp), ("level", .text record.level.name), ("name", .text title),
      ("message", .text record.message), ("app", .text settings.appName),
      ("environment", .text settings.environment.name), ("logger", .text title)])

/-- A record as text, on as many lines as its message has. -/
def Record.lines (title stamp : String) (record : Record) : List String :=
  split '\n' (join " - " [stamp, title, record.level.name, record.message])

/-! ### Writing -/

inductive Entry where
  | object (fields : Fields)
  | line (text : String)
deriving Repr

def entries (settings : Settings) (setup : Setup) (logger : Logger) (stamp : String)
    (record : Record) : Except Fault (List Entry) :=
  let full := { record with
    additions := Fields.ofList (logger.context ++ record.additions) }
  if record.level.weight < logger.threshold setup then .ok []
  else
    match full.additions.find? fun field => reserved.contains field.1 with
    | some field => .error (.reservedKey field.1)
    | none =>
        match setup.format with
        | .json => .ok [.object (full.object settings logger.title stamp)]
        | .text => .ok ((full.lines logger.title stamp).map .line)

end Log

end ReportCompiler
