import ReportCompiler.Number.Reader

/-!
Numbers with a fixed number of decimal places. The decimal that is shown for the number is rounded,
not its binary value, and a half goes away from zero. A result of more than twenty-eight digits is
not attempted.
-/

namespace ReportCompiler

open ReportCompiler.Text

/-- `± coefficient * 10 ^ exponent`. -/
structure Decimal where
  negative : Bool
  coefficient : Nat
  exponent : Int
deriving DecidableEq, Repr, Inhabited

namespace Decimal

def greatestDigits : Nat := 28

def ofNumber? : Number → Option Decimal
  | .int n => some ⟨n < 0, n.natAbs, 0⟩
  | .double (.finite negative mantissa exponent) =>
      if mantissa = 0 then some ⟨negative, 0, 0⟩
      else
        let (digits, power) := Double.shortest mantissa exponent
        some ⟨negative, digits, power⟩
  | .double _ => none

/-- Quotient rounded to the nearest natural, a half going up. -/
def roundDivUp (num den : Nat) : Nat := (2 * num + den) / (2 * den)

/-- The coefficient at `places` decimals; fewer than none rounds to tens, hundreds and so on. A
coefficient that is certainly too long is not computed. -/
def rescale? (places : Int) (x : Decimal) : Option Nat :=
  let shift := x.exponent + places
  let length : Int := Double.decimalLength x.coefficient + shift
  if x.coefficient = 0 then some 0
  else if greatestDigits < length then none
  else if length < 0 then some 0
  else
    let rounded :=
      if 0 ≤ shift then x.coefficient * Nat.pow 10 shift.toNat
      else roundDivUp x.coefficient (Nat.pow 10 (-shift).toNat)
    if greatestDigits < Double.decimalLength rounded then none else some rounded

/-- Digits with a point before the last `places` of them. -/
def withPoint (places coefficient : Nat) : List Char :=
  let digits := padLeft (places + 1) '0' (Nat.toDigits 10 coefficient)
  let whole := digits.take (digits.length - places)
  if places = 0 then whole else whole ++ '.' :: digits.drop (digits.length - places)

/-- A result of zero loses its sign. -/
def toPlaces? (places : Nat) (x : Decimal) : Option String :=
  (x.rescale? places).map fun coefficient =>
    let body := withPoint places coefficient
    String.ofList (if x.negative && coefficient != 0 then '-' :: body else body)

/-- Exponents that a written decimal may have. -/
def exponentAllowed (exponent : Int) : Bool :=
  -1999999999999999997 ≤ exponent && exponent ≤ 999999999999999999

/-- A decimal from a text; underscores are ignored wherever they stand. -/
def ofText? (text : String) : Option Decimal :=
  let (negative, unsigned) := Reader.takeSign (trimChars (Reader.dropUnderscores text.toList))
  match Reader.takeDecimal? unsigned with
  | some parts =>
      if parts.rest.isEmpty && exponentAllowed parts.exponent then
        some ⟨negative, digitsValue (parts.whole ++ parts.fraction),
          parts.exponent - parts.fraction.length⟩
      else none
  | none => none

/-- The text of a decimal that is not a number, which may carry a payload of digits. -/
def notANumber? (text : String) : Option String :=
  let (negative, unsigned) := Reader.takeSign (trimChars (Reader.dropUnderscores text.toList))
  let payload := unsigned.drop 3
  if Reader.isWordOf ["nan"] (unsigned.take 3) && payload.all isDecimalDigit then
    let kept := (payload.drop (payload.length - greatestDigits)).dropWhile
      fun c => digitValue? c == some 0
    let digits := if kept.isEmpty then "" else toString (digitsValue kept)
    some ((if negative then "-NaN" else "NaN") ++ digits)
  else none

end Decimal

namespace Number

/-- A number with `places` decimals; one that is not finite, or too long, in its own text. -/
def fixed (places : Nat) (n : Number) : String :=
  ((Decimal.ofNumber? n).bind (Decimal.toPlaces? places)).getD n.text

end Number

end ReportCompiler
