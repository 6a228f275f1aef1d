/-!
Double precision numbers, kept as exact binary fractions. A finite number is a sign, a mantissa below
`2 ^ 53` and a power of two; every operation works on exact ratios and rounds its result once, to the
nearest representable number, a tie going to the even mantissa. Nothing here depends on machine
floats, so every value can be computed by hand.
-/

namespace ReportCompiler

inductive Double where
  | nan
  | infinite (negative : Bool)
  | finite (negative : Bool) (mantissa : Nat) (exponent : Int)
deriving DecidableEq, Repr, Inhabited

namespace Double

/-- Smallest exponent of a finite number; below it the mantissa loses bits. -/
def leastExponent : Int := -1074

/-- Largest exponent of a finite number. -/
def greatestExponent : Int := 971

/-- `mantissa * 2 ^ exponent` as a ratio of naturals. -/
def scale (mantissa : Nat) (exponent : Int) : Nat × Nat :=
  if 0 ≤ exponent then (mantissa * Nat.pow 2 exponent.toNat, 1)
  else (mantissa, Nat.pow 2 (-exponent).toNat)

theorem scale_snd_pos (mantissa : Nat) (exponent : Int) : 0 < (scale mantissa exponent).2 := by
  unfold scale
  split
  · exact Nat.one_pos
  · exact Nat.pow_pos (by decide)

/-- The exponent at which `num / den` has a mantissa of 53 bits, or the least one. -/
def exponentOf (num den : Nat) : Int :=
  let guess : Int := (num.log2 : Int) - (den.log2 : Int) - 52
  let (unit, parts) := scale 1 guess
  let exponent := if num * parts < Nat.pow 2 52 * (den * unit) then guess - 1 else guess
  max exponent leastExponent

/-- Quotient rounded to the nearest natural, a tie going to the even one. -/
def roundDivEven (num den : Nat) : Nat :=
  let floor := num / den
  let twice := 2 * (num % den)
  if twice < den then floor
  else if den < twice then floor + 1
  else if floor % 2 = 0 then floor else floor + 1

/-- The double nearest to `num / den`, with the given sign. -/
def nearest (negative : Bool) (num den : Nat) : Double :=
  if num = 0 then finite negative 0 leastExponent
  else
    let exponent := exponentOf num den
    let (unit, parts) := scale 1 exponent
    let mantissa := roundDivEven (num * parts) (den * unit)
    let (mantissa, exponent) :=
      if mantissa = Nat.pow 2 53 then (Nat.pow 2 52, exponent + 1) else (mantissa, exponent)
    if greatestExponent < exponent then infinite negative else finite negative mantissa exponent

def zero : Double := finite false 0 leastExponent

def ofInt (n : Int) : Double := nearest (n < 0) n.natAbs 1

/-! ### What a double is -/

def isNaN : Double → Bool
  | nan => true
  | _ => false

def isFinite : Double → Bool
  | finite .. => true
  | _ => false

def isZero : Double → Bool
  | finite _ mantissa _ => mantissa == 0
  | _ => false

def isNegative : Double → Bool
  | nan => false
  | infinite negative => negative
  | finite negative .. => negative

/-- Numerator and denominator of a finite number. -/
def ratio? : Double → Option (Int × Nat)
  | finite negative mantissa exponent =>
      let (num, den) := scale mantissa exponent
      some (if negative then -(num : Int) else (num : Int), den)
  | _ => none

/-- The integer that a finite number equals, if it is one. -/
def toInt? (x : Double) : Option Int :=
  match x.ratio? with
  | some (num, den) => if num.natAbs % den = 0 then some (num.tdiv den) else none
  | none => none

/-! ### Arithmetic -/

def neg : Double → Double
  | nan => nan
  | infinite negative => infinite (!negative)
  | finite negative mantissa exponent => finite (!negative) mantissa exponent

/-- A signed ratio rounded once; an exact zero takes the given sign. -/
def ofRatio (zeroSign : Bool) (num : Int) (den : Nat) : Double :=
  if num = 0 then finite zeroSign 0 leastExponent else nearest (num < 0) num.natAbs den

def add (x y : Double) : Double :=
  match x, y with
  | nan, _ => nan
  | _, nan => nan
  | infinite s, infinite t => if s = t then infinite s else nan
  | infinite s, _ => infinite s
  | _, infinite t => infinite t
  | finite s m e, finite t n f =>
      let (a, b) := scale m e
      let (c, d) := scale n f
      let left : Int := if s then -(a * d : Nat) else (a * d : Nat)
      let right : Int := if t then -(c * b : Nat) else (c * b : Nat)
      ofRatio (s && t) (left + right) (b * d)

def sub (x y : Double) : Double := add x y.neg

def mul (x y : Double) : Double :=
  match x, y with
  | nan, _ => nan
  | _, nan => nan
  | infinite s, infinite t => infinite (s != t)
  | infinite s, finite t n _ => if n = 0 then nan else infinite (s != t)
  | finite s m _, infinite t => if m = 0 then nan else infinite (s != t)
  | finite s m e, finite t n f =>
      let (a, b) := scale m e
      let (c, d) := scale n f
      nearest (s != t) (a * c) (b * d)

/-- Quotient of two doubles; the caller keeps a zero divisor away. -/
def div (x y : Double) : Double :=
  match x, y with
  | nan, _ => nan
  | _, nan => nan
  | infinite _, infinite _ => nan
  | infinite s, finite t _ _ => infinite (s != t)
  | finite s _ _, infinite t => finite (s != t) 0 leastExponent
  | finite s m e, finite t n f =>
      let (a, b) := scale m e
      let (c, d) := scale n f
      if n = 0 then nan else nearest (s != t) (a * d) (b * c)

end Double

end ReportCompiler
