import ReportCompiler.Fault
import ReportCompiler.Number.Decimal

/-!
Numbers as data holds them: integers of any size beside doubles. The two kinds stay distinct, compare
by exact value, and meet in arithmetic as doubles.
-/

namespace ReportCompiler

inductive Number where
  | int (n : Int)
  | double (x : Double)
deriving DecidableEq, Repr, Inhabited

namespace Number

/-! ### Exact comparison -/

/-- Where a number stands on the extended line; a number that is not a number stands nowhere. -/
inductive Place where
  | below
  | at (num : Int) (den : Nat)
  | above

def place? : Number → Option Place
  | int n => some (.at n 1)
  | double .nan => none
  | double (.infinite true) => some .below
  | double (.infinite false) => some .above
  | double x => x.ratio?.map fun (num, den) => .at num den

def Place.lt : Place → Place → Bool
  | .below, .below => false
  | .below, _ => true
  | _, .below => false
  | .above, _ => false
  | _, .above => true
  | .at a b, .at c d => a * d < c * b

/-- Both comparisons are false when either side is not a number. -/
def lt (x y : Number) : Bool :=
  match x.place?, y.place? with
  | some p, some q => p.lt q
  | _, _ => false

def le (x y : Number) : Bool :=
  match x.place?, y.place? with
  | some p, some q => !q.lt p
  | _, _ => false

/-- Equality of values: `2` equals `2.0`, and nothing equals a number that is not one. -/
def same (x y : Number) : Bool := x.le y && y.le x

def isZero : Number → Bool
  | int n => n == 0
  | double x => x.isZero

def isNaN : Number → Bool
  | int _ => false
  | double x => x.isNaN

def isFinite : Number → Bool
  | int _ => true
  | double x => x.isFinite

theorem lt_irrefl (x : Number) : x.lt x = false := by
  unfold lt
  cases h : x.place? with
  | none => rfl
  | some p => cases p <;> simp [Place.lt]

/-! ### Arithmetic -/

/-- Integers beyond the range of doubles have no double. -/
def toDouble : Number → Except Fault Double
  | double x => .ok x
  | int n =>
      match Double.ofInt n with
      | .infinite _ => .error .numberTooLarge
      | x => .ok x

def sub : Number → Number → Except Fault Number
  | int m, int n => .ok (int (m - n))
  | x, y => do return double ((← x.toDouble).sub (← y.toDouble))

def mul : Number → Number → Except Fault Number
  | int m, int n => .ok (int (m * n))
  | x, y => do return double ((← x.toDouble).mul (← y.toDouble))

/-- Division always gives a double; integers are divided exactly and rounded once. -/
def div : Number → Number → Except Fault Double
  | int m, int n =>
      if n = 0 then .error .divisionByZero
      else
        match Double.ofRatio false (if n < 0 then -m else m) n.natAbs with
        | .infinite _ => .error .numberTooLarge
        | x => .ok x
  | x, y => do
      let dividend ← x.toDouble
      let divisor ← y.toDouble
      if divisor.isZero then .error .divisionByZero else return dividend.div divisor

/-- The smaller of two; the first when they are equal or not comparable. -/
def min (x y : Number) : Number := if y.lt x then y else x

/-- The larger of two; the first when they are equal or not comparable. -/
def max (x y : Number) : Number := if x.lt y then y else x

/-! ### Text -/

/-- The text shown to a reader: a whole number without a point, whatever its kind. -/
def text : Number → String
  | int n => toString n
  | double .nan => "NaN"
  | double (.infinite negative) => if negative then "-Infinity" else "Infinity"
  | double x =>
      match x.toInt? with
      | some n => toString n
      | none => x.text

end Number

end ReportCompiler
