import ReportCompiler.Number.Double

/-!
Doubles and decimals. A finite double is written with the fewest decimal digits that round back to
it, the nearest such decimal when there are several; a decimal is read as the nearest double; and a
double is rounded to a number of decimal places on its exact value.
-/

namespace ReportCompiler

namespace Double

/-! ### Reading -/

def decimalLength (n : Nat) : Nat := (Nat.toDigits 10 n).length

/-- The double nearest to `coefficient * 10 ^ exponent`. Exponents far outside the range of doubles
are settled without computing the power. -/
def ofDecimal (negative : Bool) (coefficient : Nat) (exponent : Int) : Double :=
  if coefficient = 0 then finite negative 0 leastExponent
  else if exponent + decimalLength coefficient > 310 then infinite negative
  else if exponent + decimalLength coefficient < -326 then finite negative 0 leastExponent
  else if 0 ≤ exponent then nearest negative (coefficient * Nat.pow 10 exponent.toNat) 1
  else nearest negative coefficient (Nat.pow 10 (-exponent).toNat)

/-! ### The fewest digits -/

/-- The numbers that round to `mantissa * 2 ^ exponent`, as a closed or open interval over one
denominator. Below a power of two the next smaller double is only half as far away. -/
structure Rounding where
  low : Nat
  high : Nat
  den : Nat
  closed : Bool

def rounding (mantissa : Nat) (exponent : Int) : Rounding :=
  let (unit, den) := scale 1 (exponent - 2)
  let below := if mantissa = Nat.pow 2 52 && leastExponent < exponent then 1 else 2
  { low := (4 * mantissa - below) * unit
    high := (4 * mantissa + 2) * unit
    den := den
    closed := mantissa % 2 == 0 }

def Rounding.holds (r : Rounding) (num den : Nat) : Bool :=
  if r.closed then r.low * den ≤ num * r.den && num * r.den ≤ r.high * den
  else r.low * den < num * r.den && num * r.den < r.high * den

/-- The power of ten at or above a positive ratio: `10 ^ (k - 1) ≤ num / den < 10 ^ k`. -/
def decimalExponent (num den : Nat) : Int :=
  let guess : Int := (decimalLength num : Int) - (decimalLength den : Int)
  let reaches := if 0 ≤ guess then den * Nat.pow 10 guess.toNat ≤ num
    else den ≤ num * Nat.pow 10 (-guess).toNat
  if reaches then guess + 1 else guess

/-- `digits * 10 ^ exponent` as a ratio. -/
def decimalRatio (digits : Nat) (exponent : Int) : Nat × Nat :=
  if 0 ≤ exponent then (digits * Nat.pow 10 exponent.toNat, 1)
  else (digits, Nat.pow 10 (-exponent).toNat)

/-- The nearer of the value's two neighbours on the grid of step `10 ^ exponent`, among those that
round back to the double. -/
def onGrid? (r : Rounding) (num den : Nat) (exponent : Int) : Option Nat :=
  let (stepNum, stepDen) := decimalRatio 1 exponent
  let scaledNum := num * stepDen
  let scaledDen := den * stepNum
  let floor := scaledNum / scaledDen
  let fits (digits : Nat) : Bool :=
    let (n, d) := decimalRatio digits exponent
    0 < digits && r.holds n d
  let nearestDigits := roundDivEven scaledNum scaledDen
  if fits nearestDigits then some nearestDigits
  else if fits floor then some floor
  else if fits (floor + 1) then some (floor + 1)
  else none

/-- The first grid that has a fitting decimal, from the coarsest on. -/
def searchGrids (r : Rounding) (num den : Nat) (exponent : Int) : Nat → Nat × Int
  | 0 => (num, 0)
  | count + 1 =>
      match onGrid? r num den exponent with
      | some digits => (digits, exponent)
      | none => searchGrids r num den (exponent - 1) count

/-- The shortest decimal `digits * 10 ^ exponent` that rounds back to a positive double. Seventeen
digits always suffice. -/
def shortest (mantissa : Nat) (exponent : Int) : Nat × Int :=
  let (num, den) := scale mantissa exponent
  searchGrids (rounding mantissa exponent) num den (decimalExponent num den - 1) 18

/-! ### Layout -/

/-- How the digits of a decimal are laid out: positional for exponents in a range, with a fraction
always shown, and scientific with a sign and a least number of exponent digits otherwise. -/
structure Layout where
  leastPositional : Int
  greatestPositional : Int
  exponentWidth : Nat

/-- Numbers are positional from a ten-thousandth up to below ten to the sixteenth. -/
def layout : Layout := { leastPositional := -4, greatestPositional := 15, exponentWidth := 2 }

def zeros (count : Nat) : List Char := List.replicate count '0'

/-- Digits with the point after the first `point` of them, zeros filling up on either side. -/
def positional (digits : List Char) (point : Int) : List Char :=
  if point ≤ 0 then '0' :: '.' :: zeros (-point).toNat ++ digits
  else if digits.length ≤ point.toNat then
    digits ++ zeros (point.toNat - digits.length) ++ ['.', '0']
  else digits.take point.toNat ++ '.' :: digits.drop point.toNat

def scientific (width : Nat) (digits : List Char) (exponent : Int) : List Char :=
  let fraction := digits.drop 1
  let power := Nat.toDigits 10 exponent.natAbs
  digits.take 1 ++ (if fraction.isEmpty then [] else '.' :: fraction) ++
    'e' :: (if exponent < 0 then '-' else '+') :: zeros (width - power.length) ++ power

/-- Digits without the zeros at their end. -/
def significant (digits : List Char) : List Char :=
  (digits.reverse.dropWhile (· == '0')).reverse

def layoutDigits (style : Layout) (digits : Nat) (exponent : Int) : List Char :=
  let shown := Nat.toDigits 10 digits
  let point : Int := (shown.length : Int) + exponent
  let kept := significant shown
  if style.leastPositional ≤ point - 1 && point - 1 ≤ style.greatestPositional then
    positional kept point
  else scientific style.exponentWidth kept (point - 1)

/-- The text of a double: fewest digits, a point or an exponent always present. -/
def text : Double → String
  | nan => "nan"
  | infinite negative => if negative then "-inf" else "inf"
  | finite negative mantissa exponent =>
      let body :=
        if mantissa = 0 then ['0', '.', '0']
        else
          let (digits, power) := shortest mantissa exponent
          layoutDigits layout digits power
      String.ofList (if negative then '-' :: body else body)

/-! ### Rounding to places -/

/-- The nearest double to the value rounded to `places` decimals, a tie going to the even digit. -/
def roundPlaces (places : Nat) : Double → Double
  | finite negative mantissa exponent =>
      let (num, den) := scale mantissa exponent
      nearest negative (roundDivEven (num * Nat.pow 10 places) den) (Nat.pow 10 places)
  | x => x

end Double

end ReportCompiler
