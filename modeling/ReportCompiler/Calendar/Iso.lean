import ReportCompiler.Calendar.Basic

/-!
Moments in ISO 8601 notation: a date with or without hyphens or a week date, any one character, and a
time in pairs of digits with an optional fraction and offset. The reader is lenient in three places:
hours, minutes and seconds may be written without colons, digits after the sixth of a fraction are
dropped, and characters between the time and its offset are passed over where the time has ended.
-/

namespace ReportCompiler

namespace Iso

/-! ### Digits -/

def digit? (c : Char) : Option Nat :=
  if 48 ≤ c.toNat && c.toNat ≤ 57 then some (c.toNat - 48) else none

def isDigit (c : Char) : Bool := (digit? c).isSome

/-- Exactly `count` digits at the front. -/
def takeNumber? (count : Nat) (chars : List Char) : Option (Nat × List Char) :=
  let digits := chars.take count
  if digits.length = count && digits.all isDigit then
    some (digits.foldl (fun value c => 10 * value + (digit? c).getD 0) 0, chars.drop count)
  else none

/-! ### Dates -/

/-- Day number of the Monday that starts week 1: the week with the year's first Thursday. -/
def firstMonday (year : Nat) : Int :=
  let first := Date.dayNumber { year, month := 1, day := 1 }
  let fromMonday := (first + 6) % 7
  let monday := (first : Int) - fromMonday
  if 3 < fromMonday then monday + 7 else monday

/-- A year has 53 weeks when it starts on a Thursday, or on a Wednesday and is a leap year. -/
def hasLongYear (year : Nat) : Bool :=
  let first := Date.weekday { year, month := 1, day := 1 }
  first == 4 || (first == 3 && Date.isLeapYear year)

def ofWeek? (year week day : Nat) : Option Date :=
  if 1 ≤ year && 1 ≤ week && (week ≤ 52 || (week == 53 && hasLongYear year)) && 1 ≤ day && day ≤ 7 then
    some (Date.ofDayNumber (firstMonday year + ((week - 1) * 7 + day - 1 : Nat)).toNat)
  else none

/-- Where the date ends, from the characters that tell its forms apart. -/
def dateLength (chars : List Char) : Nat :=
  let bytes := (String.ofList chars).utf8ByteSize
  if bytes = 7 then 7
  else if chars[4]? = some '-' then
    if chars[5]? = some 'W' then
      if chars[8]? = some '-' then
        if (chars[10]?).any isDigit then 8 else 10
      else 8
    else 10
  else if chars[4]? = some 'W' then
    let end_ := 7 + ((chars.drop 7).takeWhile isDigit).length
    if end_ < 9 then end_ else if end_ % 2 = 0 then 7 else 8
  else 8

def date? (chars : List Char) : Option Date := do
  let (year, rest) ← takeNumber? 4 chars
  let hyphens := rest.head? == some '-'
  let rest := if hyphens then rest.drop 1 else rest
  let hyphen? (rest : List Char) : Option (List Char) :=
    if hyphens then (if rest.head? == some '-' then some (rest.drop 1) else none) else some rest
  if rest.head? == some 'W' then
    let (week, rest) ← takeNumber? 2 (rest.drop 1)
    if rest.isEmpty then ofWeek? year week 1
    else
      let (day, _) ← takeNumber? 1 (← hyphen? rest)
      ofWeek? year week day
  else
    let (month, rest) ← takeNumber? 2 rest
    let (day, rest) ← takeNumber? 2 (← hyphen? rest)
    if rest.isEmpty then some { year, month, day } else none

/-! ### Times -/

structure Clock where
  hour : Nat := 0
  minute : Nat := 0
  second : Nat := 0
  microsecond : Nat := 0

/-- A fraction of a second. At most six digits are read and the others passed over; `limit` is the
number of characters that belong to the time. -/
def fraction? (limit : Nat) (chars : List Char) : Option (Nat × List Char) := do
  let count := min limit 6
  let (value, rest) ← takeNumber? count chars
  return (value * Nat.pow 10 (6 - count), rest.dropWhile isDigit)

/-- Whether the text is over; a zero character counts as its end. -/
def isOver (chars : List Char) : Bool :=
  match chars with
  | [] => true
  | c :: _ => c.toNat == 0

/-- The pairs of digits still to come, `count` of them at most, then a fraction. `limit` counts the
characters of `chars` that belong to the time. The result tells whether anything is left over. -/
def pairs? (colons : Option Bool) : Nat → Nat → List Char → List Nat → Option (List Nat × Nat × Bool)
  | 0, limit, chars, found => do
      let (microsecond, rest) ← fraction? limit chars
      return (found.reverse, microsecond, !isOver rest)
  | count + 1, limit, chars, found => do
      let (value, rest) ← takeNumber? 2 chars
      let next := rest.head?.getD (Char.ofNat 0)
      let colons := colons.getD (next == ':')
      let found := value :: found
      if limit ≤ 3 then return (found.reverse, 0, !isOver rest)
      else if colons && next == ':' then pairs? (some colons) count (limit - 3) (rest.drop 1) found
      else if next == '.' || next == ',' then
        let (microsecond, rest) ← fraction? (limit - 3) (rest.drop 1)
        return (found.reverse, microsecond, !isOver rest)
      else if !colons then pairs? (some colons) count (limit - 2) rest found
      else none

def clock? (limit : Nat) (chars : List Char) : Option (Clock × Bool) := do
  let (found, microsecond, more) ← pairs? none 3 limit chars []
  return ({ hour := found.getD 0 0, minute := found.getD 1 0, second := found.getD 2 0, microsecond }, more)

def startsOffset (c : Char) : Bool := c == '+' || c == '-' || c == 'Z'

/-- Offsets stay below a day; one of less than a second counts as none. -/
def offset? (negative : Bool) (clock : Clock) : Option Int :=
  let seconds := (clock.hour * 60 + clock.minute) * 60 + clock.second
  let total := seconds * 1000000 + clock.microsecond
  if seconds = 0 then some 0
  else if total < Moment.microsecondsPerDay then some (if negative then -(total : Int) else total)
  else none

/-- A time with an optional offset. -/
def time? (chars : List Char) : Option (Clock × Option Int) := do
  let limit := (chars.takeWhile fun c => !startsOffset c).length
  let (clock, more) ← clock? limit chars
  match chars.drop limit with
  | [] => if more then none else some (clock, none)
  | 'Z' :: rest => if isOver rest then some (clock, some 0) else none
  | sign :: rest =>
      let (shift, more) ← clock? rest.length rest
      if more then none else some (clock, some (← offset? (sign == '-') shift))

/-! ### Moments -/

/-- The text as bytes, each seen as a character: outside the separator only ASCII carries meaning. -/
def bytes (chars : List Char) : List Char :=
  (String.ofList chars).toUTF8.toList.map fun byte => Char.ofNat byte.toNat

def moment? (text : String) : Option Moment := do
  let chars := text.toList
  let length := dateLength chars
  let date ← date? (chars.take length)
  let rest := chars.drop length
  let clocked ←
    match rest with
    | [] => some (({} : Clock), none)
    | _ :: after => time? (bytes after)
  let moment : Moment :=
    { date := date, hour := clocked.1.hour, minute := clocked.1.minute, second := clocked.1.second
      microsecond := clocked.1.microsecond, offset := clocked.2 }
  if moment.isValid then some moment else none

end Iso

end ReportCompiler
