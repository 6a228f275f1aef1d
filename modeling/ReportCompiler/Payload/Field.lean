import ReportCompiler.Number.Reader
import ReportCompiler.Payload.Issue
import ReportCompiler.Value.Basic

/-!
Fields of a payload. A field may have several names; the first one that is present counts, and it is
the one that an issue shows. Truth values and numbers are also taken from their written forms.
-/

namespace ReportCompiler

open ReportCompiler.Text

namespace Payload

/-- Reads a value. Issues inside it are given places relative to the value. -/
abbrev Reader (α : Type) := Value → Checked α

variable {α : Type}

def refuse (problem : Problem) : Checked α := .fail [] problem

/-- A field under the first of its names that is present. -/
def named (names : List String) (absent : Checked α) (read : Reader α) (fields : Fields) :
    Checked α :=
  match names.findSome? fun name => (fields.lookup name).map fun value => (name, value) with
  | some (name, value) => (read value).within [name]
  | none => absent

def required (name : String) (read : Reader α) (fields : Fields) : Checked α :=
  named [name] (.fail [name] .missing) read fields

def optional (names : List String) (fallback : α) (read : Reader α) (fields : Fields) : Checked α :=
  named names (.valid fallback) read fields

/-- Null in place of a value. -/
def nullable (read : Reader α) : Reader (Option α)
  | .null => .valid none
  | value => (read value).map some

/-! ### Texts, objects and lists -/

def text : Reader String
  | .text s => .valid s
  | _ => refuse .notText

def object : Reader Fields
  | .object fields => .valid fields
  | _ => refuse .notObject

/-- An object whose fields are known. -/
def record (orAttributes : Bool) (read : Fields → Checked α) : Reader α
  | .object fields => read fields
  | _ => refuse (.notRecord orAttributes)

/-- Items from the index on, with the issues of all of them. -/
def itemsFrom (read : Reader α) (index : Nat) : List Value → Checked (List α)
  | [] => .valid []
  | item :: rest =>
      List.cons <$> (read item).within [toString index] <*> itemsFrom read (index + 1) rest

def list (read : Reader α) : Reader (List α)
  | .list items => itemsFrom read 0 items
  | _ => refuse .notList

/-- Entries of an object, each under its key. -/
def entries (read : String → Reader α) : Fields → Checked (List (String × α))
  | [] => .valid []
  | (key, value) :: rest =>
      List.cons <$> ((read key value).within [key]).map (key, ·) <*> entries read rest

/-! ### Truth values -/

def yesWords : List String := ["1", "on", "t", "true", "y", "yes"]

def noWords : List String := ["0", "off", "f", "false", "n", "no"]

/-- Whole doubles are taken as integers up to this bound. -/
def wholeBound : Int := Int.pow 2 63

/-- The whole number in a double, unless it is too large to be counted with. -/
def wholeOf? (x : Double) : Option Int :=
  x.toInt?.filter fun n => -wholeBound < n && n < wholeBound

def truthValue : Reader Bool
  | .bool b => .valid b
  | .number (.int n) =>
      if n = 0 then .valid false else if n = 1 then .valid true else refuse .unreadableTruthValue
  | .number (.double x) =>
      match wholeOf? x with
      | some 0 => .valid false
      | some 1 => .valid true
      | some _ => refuse .unreadableTruthValue
      | none => refuse .notTruthValue
  | .text s =>
      let word := String.ofList (s.toList.map Char.toLower)
      if yesWords.contains word then .valid true
      else if noWords.contains word then .valid false
      else refuse .unreadableTruthValue
  | _ => refuse .notTruthValue

/-! ### Numbers -/

def trimSpace (chars : List Char) : List Char :=
  ((chars.dropWhile isWhiteSpace).reverse.dropWhile isWhiteSpace).reverse

def isAsciiDigit (c : Char) : Bool := 48 ≤ c.toNat && c.toNat ≤ 57

/-- Text without the underscores that stand singly inside it. -/
def withoutUnderscores? (chars : List Char) : Option (List Char) :=
  if chars.head? == some '_' || chars.getLast? == some '_' || occurs ['_', '_'] chars then none
  else some (chars.filter (· != '_'))

/-- What follows leading zeros, between which underscores may stand. The last character of a text of
zeros is kept. -/
def afterZeros? : List Char → Option (List Char)
  | '0' :: rest => skip rest '0'
  | c :: rest => if c == '-' || isAsciiDigit c then some (c :: rest) else none
  | [] => none
where
  /-- The text after a leading zero, given the character before it. -/
  skip : List Char → Char → Option (List Char)
    | [], last => some [last]
    | c :: rest, last =>
        if c == '0' || c == '_' then skip rest c
        else if c == '-' || isAsciiDigit c then some (c :: rest)
        else if c == '.' then some (last :: c :: rest)
        else none

/-- The text without a fraction of zeros. -/
def withoutZeroFraction? (chars : List Char) : Option (List Char) :=
  match chars.dropWhile (· != '.') with
  | [] => some chars
  | _ :: fraction =>
      if fraction.all (· == '0') then some (chars.takeWhile (· != '.')) else none

def signedInteger? : List Char → Option Int
  | '-' :: digits =>
      if digits.isEmpty || !digits.all isAsciiDigit then none else some (-(digitsValue digits : Int))
  | digits =>
      if digits.isEmpty || !digits.all isAsciiDigit then none else some (digitsValue digits)

def writtenInteger (s : String) : Checked Int :=
  let unsigned :=
    match trimSpace s.toList with
    | '+' :: rest => rest
    | chars => chars
  match (afterZeros? unsigned).bind withoutZeroFraction? |>.bind withoutUnderscores? with
  | some chars =>
      if ReportCompiler.Reader.greatestDigitCount < chars.length then refuse .integerTooLong
      else
        match signedInteger? chars with
        | some n => .valid n
        | none => refuse .unreadableInteger
  | none => refuse .unreadableInteger

def integer : Reader Int
  | .number (.int n) => .valid n
  | .bool b => .valid (if b then 1 else 0)
  | .number (.double x) =>
      if !x.isFinite then refuse .notFinite
      else
        match wholeOf? x with
        | some n => .valid n
        | none => refuse (if x.toInt?.isSome then .integerTooLong else .integerWithFraction)
  | .text s => writtenInteger s
  | _ => refuse .notInteger

/-- A number in decimal or scientific notation, or the name of one that is not finite. -/
def plainNumber? (chars : List Char) : Option Double :=
  let (negative, unsigned) := ReportCompiler.Reader.takeSign chars
  if ReportCompiler.Reader.isWordOf ["inf", "infinity"] unsigned then some (.infinite negative)
  else if ReportCompiler.Reader.isWordOf ["nan"] unsigned then some .nan
  else if unsigned.any fun c => 127 < c.toNat then none
  else
    match ReportCompiler.Reader.takeDecimal? unsigned with
    | some parts => if parts.rest.isEmpty then some (parts.toDouble negative) else none
    | none => none

def writtenNumber (s : String) : Checked Double :=
  let chars := trimSpace s.toList
  match (plainNumber? chars).orElse fun _ => (withoutUnderscores? chars).bind plainNumber? with
  | some x => .valid x
  | none => refuse .unreadableNumber

def number : Reader Double
  | .number (.double x) => .valid x
  | .number (.int n) => if (Double.ofInt n).isFinite then .valid (.ofInt n) else refuse .notNumber
  | .bool b => .valid (.ofInt (if b then 1 else 0))
  | .text s => writtenNumber s
  | _ => refuse .notNumber

/-! ### Bounds and rules -/

/-- A value that must pass a test. -/
def checkedBy (test : α → Bool) (problem : Problem) (read : Reader α) : Reader α := fun value =>
  (read value).andThen fun result => if test result then .valid result else refuse problem

def notNegative : Reader Int := checkedBy (0 ≤ ·) .tooSmall integer

def positive : Reader Int := checkedBy (1 ≤ ·) .tooSmall integer

/-- A number of at least zero; a number that is not one is below every bound. -/
def notBelowZero : Reader Double :=
  checkedBy (fun x => Number.le (.int 0) (.double x)) .tooSmall number

def aboveZero : Reader Double :=
  checkedBy (fun x => Number.lt (.int 0) (.double x)) .notPositive number

end Payload

end ReportCompiler
