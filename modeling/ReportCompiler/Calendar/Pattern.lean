import ReportCompiler.Calendar.Basic

/-!
Date patterns. A pattern is read from left to right; at each place the longest token that fits is
replaced by a part of the moment, and every other character stands for itself. What was put in is not
read again, so letters of month and day names are safe.
-/

namespace ReportCompiler

open ReportCompiler.Text

namespace DatePattern

def monthNames : List String :=
  ["January", "February", "March", "April", "May", "June", "July", "August", "September", "October",
    "November", "December"]

/-- Day names from Sunday on. -/
def dayNames : List String :=
  ["Sunday", "Monday", "Tuesday", "Wednesday", "Thursday", "Friday", "Saturday"]

inductive Token where
  | year
  | monthName
  | shortMonthName
  | month
  | dayName
  | shortDayName
  | day
  | hour
  | minute
  | second
deriving DecidableEq, Repr

namespace Token

def spelling : Token → String
  | year => "yyyy"
  | monthName => "MMMM"
  | shortMonthName => "MMM"
  | month => "MM"
  | dayName => "dddd"
  | shortDayName => "ddd"
  | day => "dd"
  | hour => "HH"
  | minute => "mm"
  | second => "ss"

/-- All tokens; one that begins with another comes before it. -/
def all : List Token :=
  [year, monthName, shortMonthName, month, dayName, shortDayName, day, hour, minute, second]

def value (m : Moment) : Token → String
  | year => padded 4 m.date.year
  | monthName => monthNames.getD (m.date.month - 1) ""
  | shortMonthName => takeFront 3 (monthNames.getD (m.date.month - 1) "")
  | month => padded 2 m.date.month
  | dayName => dayNames.getD m.date.weekday ""
  | shortDayName => takeFront 3 (dayNames.getD m.date.weekday "")
  | day => padded 2 m.date.day
  | hour => padded 2 m.hour
  | minute => padded 2 m.minute
  | second => padded 2 m.second

/-- The first token in the order of `all` that the text begins with. -/
def at? (chars : List Char) : Option Token :=
  all.find? fun token => token.spelling.toList.isPrefixOf chars

end Token

/-- The tokens as one alternation, for programs that match them by pattern. -/
def alternation : String := join "|" (Token.all.map Token.spelling)

/-- The expansion of a text whose first `passed` characters belong to a token already replaced. -/
def expandFrom (m : Moment) : Nat → List Char → List Char
  | _, [] => []
  | passed + 1, _ :: rest => expandFrom m passed rest
  | 0, c :: rest =>
      match Token.at? (c :: rest) with
      | some token => (token.value m).toList ++ expandFrom m (token.spelling.length - 1) rest
      | none => c :: expandFrom m 0 rest

def format (pattern : String) (m : Moment) : String :=
  String.ofList (expandFrom m 0 pattern.toList)

/-! ### Named formats -/

/-- The formats that have a name. -/
def named : List (String × String) :=
  [("date-short", "MM/dd/yyyy"), ("date-long", "MMMM dd, yyyy"), ("date-time", "MM/dd/yyyy HH:mm"),
    ("time-only", "HH:mm"), ("iso", "yyyy-MM-dd"), ("custom", "")]

def long : String := "MMMM dd, yyyy"

def iso : String := "yyyy-MM-dd"

/-- The pattern of a named format; any other text is a pattern itself. -/
def ofName (name : String) : String := (named.lookup name).getD name

end DatePattern

end ReportCompiler
