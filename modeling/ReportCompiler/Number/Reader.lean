import ReportCompiler.Number.Basic
import ReportCompiler.Text.Basic
import ReportCompiler.Text.Case
import ReportCompiler.Text.Digit

/-!
Numbers read from text. Digits of every script count, blanks around a number are ignored, and an
underscore may stand between two digits.
-/

namespace ReportCompiler

open ReportCompiler.Text

namespace Reader

/-! ### Pieces of a number -/

/-- Whether underscores only stand between characters that count as digits. -/
def underscoresInside (isDigit : Char → Bool) (before : Bool) : List Char → Bool
  | [] => true
  | ['_'] => false
  | '_' :: c :: rest => before && isDigit c && underscoresInside isDigit true rest
  | c :: rest => underscoresInside isDigit (isDigit c) rest

def dropUnderscores (chars : List Char) : List Char := chars.filter (· != '_')

/-- An optional sign and the rest; true for a minus. -/
def takeSign : List Char → Bool × List Char
  | '-' :: rest => (true, rest)
  | '+' :: rest => (false, rest)
  | rest => (false, rest)

/-- A decimal number split into its parts. -/
structure Parts where
  whole : List Char
  fraction : List Char
  exponent : Int
  /-- Whether a point was written. -/
  pointed : Bool
  rest : List Char

def takeDigits (chars : List Char) : List Char × List Char :=
  (chars.takeWhile isDecimalDigit, chars.dropWhile isDecimalDigit)

/-- An exponent with at least one digit; text that has none is left alone. -/
def takeExponent : List Char → Int × List Char
  | c :: rest =>
      if c == 'e' || c == 'E' then
        let (negative, unsigned) := takeSign rest
        let (digits, remaining) := takeDigits unsigned
        if digits.isEmpty then (0, c :: rest)
        else (if negative then -(digitsValue digits : Int) else digitsValue digits, remaining)
      else (0, c :: rest)
  | [] => (0, [])

/-- The longest unsigned decimal number at the front: digits with an optional point, or a point
followed by digits, and an optional exponent. -/
def takeDecimal? (chars : List Char) : Option Parts :=
  let (whole, afterWhole) := takeDigits chars
  let (pointed, fraction, afterFraction) :=
    match afterWhole with
    | '.' :: rest =>
        let (digits, remaining) := takeDigits rest
        if whole.isEmpty && digits.isEmpty then (false, [], afterWhole) else (true, digits, remaining)
    | _ => (false, [], afterWhole)
  if whole.isEmpty && fraction.isEmpty then none
  else
    let (exponent, rest) := takeExponent afterFraction
    some { whole, fraction, exponent, pointed, rest }

def Parts.toDouble (parts : Parts) (negative : Bool) : Double :=
  Double.ofDecimal negative (digitsValue (parts.whole ++ parts.fraction))
    (parts.exponent - parts.fraction.length)

/-! ### Whole texts -/

def isWordOf (words : List String) (chars : List Char) : Bool :=
  words.contains (String.ofList (chars.map Char.toLower))

/-- A double from a text that holds nothing else. -/
def double? (text : String) : Option Double :=
  let trimmed := trimChars text.toList
  if !underscoresInside isDecimalDigit false trimmed then none
  else
    let (negative, unsigned) := takeSign (dropUnderscores trimmed)
    if isWordOf ["inf", "infinity"] unsigned then some (.infinite negative)
    else if isWordOf ["nan"] unsigned then some .nan
    else
      match takeDecimal? unsigned with
      | some parts => if parts.rest.isEmpty then some (parts.toDouble negative) else none
      | none => none

/-- Integers are read up to this many digits. -/
def greatestDigitCount : Nat := 4300

/-- A natural number from digits alone, of at most `greatestDigitCount` digits. -/
def natural? (chars : List Char) : Option Nat :=
  if chars.isEmpty || !chars.all isDecimalDigit || greatestDigitCount < chars.length then none
  else some (digitsValue chars)

def hexValue? (c : Char) : Option Nat :=
  match digitValue? c with
  | some value => some value
  | none =>
      let code := c.toLower.toNat
      if 97 ≤ code && code ≤ 102 then some (code - 87) else none

/-- The mark `0x` in front of hexadecimal digits, and an underscore after it. -/
def dropHexMark : List Char → List Char
  | z :: x :: rest =>
      if digitValue? z == some 0 && (x == 'x' || x == 'X') then
        match rest with
        | '_' :: c :: more => if (hexValue? c).isSome then c :: more else '_' :: c :: more
        | _ => rest
      else z :: x :: rest
  | chars => chars

/-- A signed hexadecimal integer. -/
def hexadecimal? (text : String) : Option Int :=
  let (negative, unsigned) := takeSign (trimChars text.toList)
  let marked := dropHexMark unsigned
  if !underscoresInside (fun c => (hexValue? c).isSome) false marked then none
  else
    let digits := dropUnderscores marked
    if digits.isEmpty || !digits.all fun c => (hexValue? c).isSome then none
    else
      let value := digits.foldl (fun value c => 16 * value + (hexValue? c).getD 0) 0
      some (if negative then -(value : Int) else value)

end Reader

end ReportCompiler
