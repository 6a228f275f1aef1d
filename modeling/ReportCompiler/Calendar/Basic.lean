import ReportCompiler.Text.Basic

/-!
Dates and moments of the proleptic Gregorian calendar, years 1 to 9999. Days are numbered from
1 January of year 1, which is day 1 and a Monday.
-/

namespace ReportCompiler

open ReportCompiler.Text

structure Date where
  year : Nat
  month : Nat
  day : Nat
deriving DecidableEq, Repr, Inhabited

/-- A time of day on a date. A moment without an offset belongs to no time zone; the offset from
universal time is kept in microseconds. -/
structure Moment where
  date : Date
  hour : Nat
  minute : Nat
  second : Nat
  microsecond : Nat
  offset : Option Int
deriving DecidableEq, Repr, Inhabited

namespace Date

def isLeapYear (year : Nat) : Bool := year % 4 == 0 && (year % 100 != 0 || year % 400 == 0)

def monthLengths (year : Nat) : List Nat :=
  [31, if isLeapYear year then 29 else 28, 31, 30, 31, 30, 31, 31, 30, 31, 30, 31]

def monthLength (year month : Nat) : Nat := (monthLengths year).getD (month - 1) 0

def isValid (d : Date) : Bool :=
  1 ≤ d.year && d.year ≤ 9999 && 1 ≤ d.month && d.month ≤ 12
    && 1 ≤ d.day && d.day ≤ monthLength d.year d.month

/-- Days before 1 January of a year. -/
def daysBeforeYear (year : Nat) : Nat :=
  let past := year - 1
  past * 365 + past / 4 - past / 100 + past / 400

def daysBeforeMonth (year month : Nat) : Nat :=
  ((monthLengths year).take (month - 1)).foldr (· + ·) 0

/-- The number of the day, counted from 1 on 1 January of year 1. -/
def dayNumber (d : Date) : Nat :=
  daysBeforeYear d.year + daysBeforeMonth d.year d.month + d.day

/-- Days from Sunday: 0 on a Sunday, 6 on a Saturday. -/
def weekday (d : Date) : Nat := d.dayNumber % 7

/-- Month and day of the `index`-th day of a year, counted from 0. -/
def monthAndDay (month index : Nat) : List Nat → Nat × Nat
  | [] => (month, index + 1)
  | length :: rest => if index < length then (month, index + 1) else monthAndDay (month + 1) (index - length) rest

/-- The date with a given day number. The year is estimated from the mean length and is then at most
one too small or too large. -/
def ofDayNumber (number : Nat) : Date :=
  let index := number - 1
  let estimate := index * 400 / 146097 + 1
  let year :=
    if index < daysBeforeYear estimate then estimate - 1
    else if daysBeforeYear (estimate + 1) ≤ index then estimate + 1
    else estimate
  let (month, day) := monthAndDay 1 (index - daysBeforeYear year) (monthLengths year)
  { year, month, day }

/-- The last day of the year 9999. -/
def lastDayNumber : Nat := 3652059

/-- `YYYY-MM-DD`. -/
def text (d : Date) : String :=
  padded 4 d.year ++ "-" ++ padded 2 d.month ++ "-" ++ padded 2 d.day

def midnight (d : Date) : Moment :=
  { date := d, hour := 0, minute := 0, second := 0, microsecond := 0, offset := none }

end Date

namespace Moment

def isValid (m : Moment) : Bool :=
  m.date.isValid && m.hour ≤ 23 && m.minute ≤ 59 && m.second ≤ 59 && m.microsecond ≤ 999999

/-- Microseconds of an hour, as of an offset. -/
def microsecondsPerDay : Nat := 86400000000

/-- Microseconds since the start of year 1, on the clock of the moment itself. -/
def localMicroseconds (m : Moment) : Nat :=
  (m.date.dayNumber - 1) * microsecondsPerDay
    + ((m.hour * 60 + m.minute) * 60 + m.second) * 1000000 + m.microsecond

/-- Two moments are the same instant when both or neither belong to a time zone and their clocks
agree once the offsets are taken off. -/
def sameInstant (m n : Moment) : Bool :=
  match m.offset, n.offset with
  | none, none => m == n
  | some a, some b => (m.localMicroseconds : Int) - a == (n.localMicroseconds : Int) - b
  | _, _ => false

def fractionText (microsecond : Nat) : String :=
  if microsecond = 0 then "" else "." ++ padded 6 microsecond

/-- `+HH:MM`, with seconds and their fraction when they are not zero. -/
def offsetText (offset : Int) : String :=
  let total := offset.natAbs
  let seconds := total / 1000000
  let fraction := total % 1000000
  let base := (if offset < 0 then "-" else "+") ++ padded 2 (seconds / 3600) ++ ":"
    ++ padded 2 (seconds / 60 % 60)
  if seconds % 60 = 0 && fraction = 0 then base
  else base ++ ":" ++ padded 2 (seconds % 60) ++ fractionText fraction

/-- Date and time with a separator between them. -/
def textWith (separator : String) (m : Moment) : String :=
  m.date.text ++ separator ++ padded 2 m.hour ++ ":" ++ padded 2 m.minute ++ ":"
    ++ padded 2 m.second ++ fractionText m.microsecond
    ++ (match m.offset with
        | none => ""
        | some offset => offsetText offset)

/-- The moment that lies `microseconds` after the start of 1970, at offset zero. -/
def ofEpoch? (microseconds : Int) : Option Moment :=
  let total := microseconds + 719162 * (microsecondsPerDay : Int)
  if total < 0 then none
  else
    let number := total.toNat / microsecondsPerDay + 1
    let rest := total.toNat % microsecondsPerDay
    if Date.lastDayNumber < number then none
    else
      let seconds := rest / 1000000
      some
        { date := Date.ofDayNumber number
          hour := seconds / 3600
          minute := seconds / 60 % 60
          second := seconds % 60
          microsecond := rest % 1000000
          offset := some 0 }

end Moment

end ReportCompiler
