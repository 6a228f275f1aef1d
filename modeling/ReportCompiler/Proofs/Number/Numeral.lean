import ReportCompiler.Proofs.Number.Shortest
import ReportCompiler.Value.Json
import ReportCompiler.Value.Reader

/-!
Numbers in the notation of JSON, taken apart into their digits. Every number is written as such a
numeral, and a numeral is read as the number that its digits spell.
-/

namespace ReportCompiler

open ReportCompiler.Text

/-- A number in the notation of JSON. A fraction is written when it has digits, and a power of ten when
there is one, with its sign in front; true stands for a minus. -/
structure Numeral where
  negative : Bool
  whole : List Char
  fraction : List Char
  power : Option (Bool × List Char)
  whole_digits : AreDigits whole
  whole_ne_nil : whole ≠ []
  /-- No needless zero in front. -/
  whole_start : whole = ['0'] ∨ whole.head? ≠ some '0'
  fraction_digits : AreDigits fraction
  power_digits : ∀ digits ∈ power, AreDigits digits.2 ∧ digits.2 ≠ []

namespace Numeral

def powerChars : Option (Bool × List Char) → List Char
  | none => []
  | some (minus, digits) => 'e' :: (if minus then '-' else '+') :: digits

def powerValue : Option (Bool × List Char) → Int
  | none => 0
  | some (minus, digits) => if minus then -(digitsValue digits : Int) else digitsValue digits

def fractionChars (fraction : List Char) : List Char :=
  if fraction.isEmpty then [] else '.' :: fraction

def unsigned (n : Numeral) : List Char := n.whole ++ (fractionChars n.fraction ++ powerChars n.power)

def chars (n : Numeral) : List Char := if n.negative then '-' :: n.unsigned else n.unsigned

def coefficient (n : Numeral) : Nat := digitsValue (n.whole ++ n.fraction)

def exponent (n : Numeral) : Int := powerValue n.power - n.fraction.length

/-- Whether the numeral has neither a fraction nor a power. -/
def isWhole (n : Numeral) : Bool := n.fraction.isEmpty && n.power.isNone

def value (n : Numeral) : Number :=
  if n.isWhole then .int (if n.negative then -(n.coefficient : Int) else n.coefficient)
  else .double (Double.ofDecimal n.negative n.coefficient n.exponent)

end Numeral

/-! ### Numbers are written as numerals -/

namespace Numeral

/-- An integer in its digits. -/
def ofInt (n : Int) : Numeral where
  negative := n < 0
  whole := Nat.toDigits 10 n.natAbs
  fraction := []
  power := none
  whole_digits := areDigits_toDigits n.natAbs
  whole_ne_nil := Nat.toDigits_ne_nil
  whole_start := toDigits_start n.natAbs
  fraction_digits := areDigits_nil
  power_digits := fun _ member => by cases member

theorem chars_ofInt (n : Int) : (ofInt n).chars = (toString n).toList := by
  have unsigned : (ofInt n).unsigned = Nat.toDigits 10 n.natAbs := List.append_nil _
  unfold chars
  rw [unsigned]
  cases n with
  | ofNat m => simp [ofInt, Int.repr, toString]
  | negSucc m => simp [ofInt, Int.repr, toString]

theorem value_ofInt (n : Int) : (ofInt n).value = .int n := by
  have coefficient : (ofInt n).coefficient = n.natAbs := by
    rw [Numeral.coefficient, show (ofInt n).fraction = [] from rfl, List.append_nil]
    exact digitsValue_toDigits n.natAbs
  unfold value
  rw [coefficient, if_pos (show (ofInt n).isWhole = true from rfl)]
  congr 1
  unfold ofInt
  split
  · next negative =>
      have := of_decide_eq_true negative
      omega
  · next notNegative =>
      have : ¬ n < 0 := fun negative => notNegative (decide_eq_true negative)
      omega

/-- What the digits stand for, without the sign. -/
def magnitude (n : Numeral) : ℚ := n.coefficient * 10 ^ n.exponent

/-- The numeral shows these digits with the point after the first `point` of them. -/
structure Shows (n : Numeral) (digits : List Char) (point : Int) : Prop where
  not_whole : n.isWhole = false
  magnitude_eq : n.magnitude = digitsValue digits * 10 ^ (point - digits.length)

/-- The digits before and after a point. -/
def pointed (negative : Bool) (whole fraction : List Char)
    (areDigits : AreDigits (whole ++ fraction)) (nonempty : whole ≠ [])
    (start : whole = ['0'] ∨ whole.head? ≠ some '0') : Numeral where
  negative := negative
  whole := whole
  fraction := fraction
  power := none
  whole_digits := ((areDigits_append _ _).mp areDigits).1
  whole_ne_nil := nonempty
  whole_start := start
  fraction_digits := ((areDigits_append _ _).mp areDigits).2
  power_digits := fun _ member => by cases member

theorem unsigned_pointed (negative : Bool) (whole fraction : List Char)
    (areDigits : AreDigits (whole ++ fraction)) (nonempty : whole ≠ [])
    (start : whole = ['0'] ∨ whole.head? ≠ some '0') (some_fraction : fraction ≠ []) :
    (pointed negative whole fraction areDigits nonempty start).unsigned =
      whole ++ '.' :: fraction := by
  simp [unsigned, pointed, fractionChars, powerChars, some_fraction]

theorem shows_pointed (negative : Bool) (whole fraction : List Char)
    (areDigits : AreDigits (whole ++ fraction)) (nonempty : whole ≠ [])
    (start : whole = ['0'] ∨ whole.head? ≠ some '0') (some_fraction : fraction ≠ [])
    (digits : List Char) (point : Int)
    (same : (digitsValue (whole ++ fraction) : ℚ) * 10 ^ (-(fraction.length : Int)) =
      digitsValue digits * 10 ^ (point - digits.length)) :
    (pointed negative whole fraction areDigits nonempty start).Shows digits point where
  not_whole := by simp [isWhole, pointed, some_fraction]
  magnitude_eq := by
    rw [← same]
    simp [magnitude, coefficient, exponent, pointed, powerValue]

variable (negative : Bool) (digits : List Char) (areDigits : AreDigits digits)
  (nonempty : digits ≠ []) (start : digits.head? ≠ some '0')

include areDigits nonempty start in
theorem exists_positional (point : Int) :
    ∃ n : Numeral, n.negative = negative ∧ n.unsigned = Double.positional digits point ∧
      n.Shows digits point := by
  unfold Double.positional Double.zeros
  split
  · next front =>
      obtain ⟨count, rfl⟩ : ∃ count : Nat, point = -(count : Int) := ⟨(-point).toNat, by omega⟩
      rw [neg_neg, Int.toNat_natCast]
      have joined : ['0'] ++ (List.replicate count '0' ++ digits) =
          List.replicate (count + 1) '0' ++ digits := rfl
      refine ⟨pointed negative ['0'] (List.replicate count '0' ++ digits)
        (by rw [joined]; exact (areDigits_append _ _).mpr ⟨areDigits_zeros _, areDigits⟩)
        (List.cons_ne_nil _ _) (.inl rfl), rfl,
        unsigned_pointed _ _ _ _ _ _ (by simp [nonempty]), ?_⟩
      apply shows_pointed _ _ _ _ _ _ (by simp [nonempty])
      rw [joined, digitsValue_zeros_append]
      congr 2
      rw [List.length_append, List.length_replicate]
      push_cast
      ring
  · next inside =>
      obtain ⟨count, rfl⟩ : ∃ count : Nat, point = (count : Int) := ⟨point.toNat, by omega⟩
      rw [Int.toNat_natCast]
      split
      · next enough =>
          obtain ⟨more, rfl⟩ := Nat.exists_eq_add_of_le enough
          rw [Nat.add_sub_cancel_left]
          have joined : digits ++ List.replicate more '0' ++ ['0'] =
              digits ++ List.replicate (more + 1) '0' := by
            rw [List.append_assoc, List.replicate_succ']
          refine ⟨pointed negative (digits ++ List.replicate more '0') ['0']
            (by rw [joined]; exact (areDigits_append _ _).mpr ⟨areDigits, areDigits_zeros _⟩)
            (by simp [nonempty])
            (.inr (by rw [List.head?_append_of_ne_nil _ nonempty]; exact start)), rfl,
            unsigned_pointed _ _ _ _ _ _ (List.cons_ne_nil _ _), ?_⟩
          apply shows_pointed _ _ _ _ _ _ (List.cons_ne_nil _ _)
          have point : ((digits.length + more : Nat) : Int) - digits.length = more := by
            push_cast
            ring
          rw [joined, digitsValue_append_zeros, point, List.length_singleton, zpow_natCast]
          push_cast
          rw [pow_succ, zpow_neg_one]
          ring
      · next short =>
          refine ⟨pointed negative (digits.take count) (digits.drop count)
            (by rw [List.take_append_drop]; exact areDigits) (by simp [nonempty]; omega)
            (.inr ?_), rfl, unsigned_pointed _ _ _ _ _ _ (by simp; omega), ?_⟩
          · rw [List.head?_take, if_neg (by omega)]
            exact start
          · apply shows_pointed _ _ _ _ _ _ (by simp; omega)
            rw [List.take_append_drop, List.length_drop]
            congr 2
            omega

include areDigits nonempty start in
theorem exists_scientific (width : Nat) (exponent : Int) :
    ∃ n : Numeral, n.negative = negative ∧
      n.unsigned = Double.scientific width digits exponent ∧ n.Shows digits (exponent + 1) := by
  obtain ⟨c, rest, rfl⟩ := List.exists_cons_of_ne_nil nonempty
  obtain ⟨first, others⟩ := (areDigits_cons c rest).mp areDigits
  have nonzero : c ≠ '0' := fun zero => start (by rw [zero]; rfl)
  unfold Double.scientific Double.zeros
  simp only [List.drop_one, List.tail_cons, List.take_succ_cons, List.take_zero]
  generalize padding : width - (Nat.toDigits 10 exponent.natAbs).length = count
  refine ⟨{
    negative := negative
    whole := [c]
    fraction := rest
    power := some (decide (exponent < 0),
      List.replicate count '0' ++ Nat.toDigits 10 exponent.natAbs)
    whole_digits := (areDigits_cons _ _).mpr ⟨first, areDigits_nil⟩
    whole_ne_nil := List.cons_ne_nil _ _
    whole_start := .inr (by simpa using nonzero)
    fraction_digits := others
    power_digits := ?_ }, rfl, ?_, ?_, ?_⟩
  · rintro _ ⟨⟩
    exact ⟨(areDigits_append _ _).mpr ⟨areDigits_zeros _, areDigits_toDigits _⟩,
      List.append_ne_nil_of_right_ne_nil _ Nat.toDigits_ne_nil⟩
  · simp [unsigned, fractionChars, powerChars]
  · simp [isWhole]
  · have power : powerValue (some (decide (exponent < 0),
        List.replicate count '0' ++ Nat.toDigits 10 exponent.natAbs)) = exponent := by
      rw [powerValue, digitsValue_zeros_append, digitsValue_toDigits]
      split
      · next negative =>
          have := of_decide_eq_true negative
          omega
      · next notNegative =>
          have : ¬ exponent < 0 := fun negative => notNegative (decide_eq_true negative)
          omega
    unfold magnitude Numeral.exponent coefficient
    rw [power, List.singleton_append]
    congr 2
    rw [List.length_cons]
    push_cast
    ring

/-- Digits of a decimal, laid out in either way, show the decimal. -/
theorem exists_layoutDigits (style : Double.Layout) (negative : Bool) (digits : Nat) (exponent : Int)
    (positive : 0 < digits) :
    ∃ n : Numeral, n.negative = negative ∧ n.unsigned = Double.layoutDigits style digits exponent ∧
      n.isWhole = false ∧ n.magnitude = digits * 10 ^ exponent := by
  have areDigits := Double.areDigits_significant digits
  have nonempty := Double.significant_ne_nil digits positive
  have start := Double.head?_significant digits positive
  have all := Double.significant_append_zeros (Nat.toDigits 10 digits)
  have spelled := digitsValue_toDigits digits
  unfold Double.layoutDigits
  simp only
  generalize Double.significant (Nat.toDigits 10 digits) = kept at *
  generalize Nat.toDigits 10 digits = shown at *
  have same : (digitsValue kept : ℚ) * 10 ^ ((shown.length : Int) + exponent - kept.length) =
      digits * 10 ^ exponent := by
    generalize shown.length - kept.length = dropped at all
    rw [← all, digitsValue_append_zeros] at spelled
    have length := congrArg List.length all
    rw [List.length_append, List.length_replicate] at length
    have power : (shown.length : Int) + exponent - kept.length = dropped + exponent := by omega
    rw [power, ← spelled, zpow_add₀ (by norm_num), zpow_natCast]
    push_cast
    ring
  split
  · obtain ⟨n, sign, chars, shows⟩ := exists_positional negative kept areDigits nonempty start
      ((shown.length : Int) + exponent)
    exact ⟨n, sign, chars, shows.not_whole, shows.magnitude_eq.trans same⟩
  · obtain ⟨n, sign, chars, shows⟩ := exists_scientific negative kept areDigits nonempty start
      style.exponentWidth ((shown.length : Int) + exponent - 1)
    rw [sub_add_cancel] at shows
    exact ⟨n, sign, chars, shows.not_whole, shows.magnitude_eq.trans same⟩

end Numeral

namespace Double

/-- The double that the text of a double is read as. -/
def readBack : Double → Double
  | finite negative mantissa exponent =>
      if mantissa = 0 then finite negative 0 leastExponent
      else ofDecimal negative (shortest mantissa exponent).1 (shortest mantissa exponent).2
  | x => x

/-- A number that doubles can hold: one that is rounded to itself. -/
def IsHeld : Double → Prop
  | finite _ mantissa exponent => IsRepresentable mantissa exponent
  | _ => False

theorem readBack_eq (x : Double) (held : x.IsHeld) : x.readBack = x := by
  cases x with
  | nan => rfl
  | infinite negative => rfl
  | finite negative mantissa exponent =>
      simp only [readBack]
      split
      · next zero =>
          rcases held.2.2.2 with least | bits
          · rw [zero, least]
          · omega
      · next nonzero =>
          exact ofDecimal_shortest negative mantissa exponent (Nat.pos_of_ne_zero nonzero) held

theorem exists_numeral (negative : Bool) (mantissa : Nat) (exponent : Int) :
    ∃ n : Numeral, n.chars = (finite negative mantissa exponent).text.toList ∧
      n.value = .double (finite negative mantissa exponent).readBack := by
  have body : ∃ n : Numeral, n.negative = negative ∧ n.isWhole = false ∧
      n.unsigned = (if mantissa = 0 then ['0', '.', '0']
        else layoutDigits layout (shortest mantissa exponent).1 (shortest mantissa exponent).2) ∧
      ofDecimal negative n.coefficient n.exponent = (finite negative mantissa exponent).readBack := by
    simp only [readBack]
    split
    · exact ⟨.pointed negative ['0'] ['0'] (areDigits_zeros 2) (by decide) (.inl rfl),
        rfl, rfl, rfl, rfl⟩
    · next nonzero =>
        obtain ⟨n, sign, chars, pointed, magnitude⟩ := Numeral.exists_layoutDigits layout negative
          (shortest mantissa exponent).1 (shortest mantissa exponent).2
          (shortest_pos mantissa exponent (Nat.pos_of_ne_zero nonzero))
        exact ⟨n, sign, pointed, chars, ofDecimal_congr negative _ _ _ _ magnitude⟩
  obtain ⟨n, sign, pointed, chars, value⟩ := body
  refine ⟨n, ?_, ?_⟩
  · unfold Numeral.chars text
    rw [sign, chars, String.toList_ofList]
  · rw [Numeral.value, pointed, sign, value]
    rfl

end Double

namespace Number

/-- The number that the text of a number is read as. -/
def readBack : Number → Number
  | int n => int n
  | double x => double x.readBack

/-- An integer of any size, or a number that doubles can hold. -/
def IsHeld : Number → Prop
  | int _ => True
  | double x => x.IsHeld

theorem readBack_eq (n : Number) (held : n.IsHeld) : n.readBack = n := by
  cases n with
  | int n => rfl
  | double x => rw [readBack, x.readBack_eq held]

theorem exists_numeral (n : Number) (finite : n.isFinite = true) :
    ∃ numeral : Numeral, numeral.chars = n.jsonText.toList ∧ numeral.value = n.readBack := by
  cases n with
  | int n => exact ⟨.ofInt n, Numeral.chars_ofInt n, Numeral.value_ofInt n⟩
  | double x =>
      cases x with
      | nan => cases finite
      | infinite negative => cases finite
      | finite negative mantissa exponent => exact Double.exists_numeral negative mantissa exponent

end Number

/-! ### Reading a numeral -/

namespace JsonReader

/-- Nothing that would continue a number. -/
def EndsNumber (rest : List Char) : Prop :=
  ∀ c ∈ rest.head?, c.isDigit = false ∧ c ≠ '.' ∧ c ≠ 'e' ∧ c ≠ 'E'

theorem isAsciiDigit_eq (c : Char) : isAsciiDigit c = c.isDigit := by
  rw [Bool.eq_iff_iff, isDigit_iff]
  simp [isAsciiDigit]

theorem takeAsciiDigits_append (digits rest : List Char) (all : AreDigits digits)
    (ends : ∀ c ∈ rest.head?, c.isDigit = false) :
    takeAsciiDigits (digits ++ rest) = (digits, rest) := by
  have inside : ∀ c ∈ digits, isAsciiDigit c = true := fun c member => by
    rw [isAsciiDigit_eq]
    exact all c member
  have stops : ∀ c ∈ rest.head?, isAsciiDigit c = false := fun c member => by
    rw [isAsciiDigit_eq]
    exact ends c member
  rw [takeAsciiDigits, takeWhile_run _ _ _ inside stops, dropWhile_run _ _ _ inside stops]

theorem takeWhole?_append (whole rest : List Char) (all : AreDigits whole) (some_digit : whole ≠ [])
    (start : whole = ['0'] ∨ whole.head? ≠ some '0') (ends : ∀ c ∈ rest.head?, c.isDigit = false) :
    takeWhole? (whole ++ rest) = some (whole, rest) := by
  rcases start with rfl | start
  · rfl
  · have digits := takeAsciiDigits_append whole rest all ends
    obtain ⟨c, more, rfl⟩ := List.exists_cons_of_ne_nil some_digit
    have nonzero : c ≠ '0' := fun zero => start (by rw [zero]; rfl)
    rw [List.cons_append] at digits ⊢
    unfold takeWhole?
    split
    · next same => exact absurd (List.cons.inj same).1 nonzero
    · rw [digits]
      rfl

theorem takeFraction_append (fraction rest : List Char) (all : AreDigits fraction)
    (ends : ∀ c ∈ rest.head?, c.isDigit = false ∧ c ≠ '.') :
    takeFraction (Numeral.fractionChars fraction ++ rest) = (fraction, rest) := by
  unfold Numeral.fractionChars
  cases fraction with
  | nil =>
      unfold takeFraction
      split
      · next more same =>
          have : rest = '.' :: more := same
          exact absurd rfl (ends '.' (by rw [this]; rfl)).2
      · rfl
  | cons c more =>
      have digits := takeAsciiDigits_append (c :: more) rest all fun c member => (ends c member).1
      simp only [List.isEmpty_cons, Bool.false_eq_true, if_false, List.cons_append] at digits ⊢
      simp [takeFraction, digits]

theorem takePower_append (power : Option (Bool × List Char)) (rest : List Char)
    (all : ∀ digits ∈ power, AreDigits digits.2 ∧ digits.2 ≠ [])
    (ends : EndsNumber rest) :
    takePower (Numeral.powerChars power ++ rest) = (power.map fun digits =>
      Numeral.powerValue (some digits), rest) := by
  cases power with
  | none =>
      cases rest with
      | nil => rfl
      | cons c more =>
          obtain ⟨-, -, lower, upper⟩ := ends c rfl
          simp [Numeral.powerChars, takePower, lower, upper]
  | some signed =>
      obtain ⟨minus, digits⟩ := signed
      obtain ⟨areDigits, some_digit⟩ := all (minus, digits) rfl
      have taken := takeAsciiDigits_append digits rest areDigits fun c member => (ends c member).1
      have nonempty : digits.isEmpty = false := by simpa using some_digit
      cases minus <;>
        simp [Numeral.powerChars, Numeral.powerValue, takePower, Reader.takeSign, taken, nonempty]

theorem readNumber_chars (n : Numeral) (rest : List Char) (ends : EndsNumber rest) :
    readNumber (n.chars ++ rest) = .ok (.number n.value, rest) := by
  have power_ends : ∀ c ∈ (Numeral.powerChars n.power ++ rest).head?,
      c.isDigit = false ∧ c ≠ '.' := by
    cases n.power with
    | none => exact fun c member => ⟨(ends c member).1, (ends c member).2.1⟩
    | some digits =>
        intro c member
        obtain rfl : 'e' = c := Option.some.inj member
        decide
  have fraction_ends : ∀ c ∈ (Numeral.fractionChars n.fraction ++
      (Numeral.powerChars n.power ++ rest)).head?, c.isDigit = false := by
    cases n.fraction with
    | nil => exact fun c member => (power_ends c member).1
    | cons digit more =>
        intro c member
        obtain rfl : '.' = c := Option.some.inj member
        decide
  have whole := takeWhole?_append n.whole _ n.whole_digits n.whole_ne_nil n.whole_start fraction_ends
  have fraction := takeFraction_append n.fraction _ n.fraction_digits power_ends
  have power := takePower_append n.power rest n.power_digits ends
  have unsigned : n.unsigned ++ rest =
      n.whole ++ (Numeral.fractionChars n.fraction ++ (Numeral.powerChars n.power ++ rest)) := by
    simp [Numeral.unsigned]
  have signed : takeMinus (n.chars ++ rest) = (n.negative, n.unsigned ++ rest) := by
    unfold Numeral.chars
    cases n.negative with
    | true => rfl
    | false =>
        obtain ⟨c, more, same⟩ := List.exists_cons_of_ne_nil n.whole_ne_nil
        have digit : c.isDigit = true := n.whole_digits c (by rw [same]; exact List.mem_cons_self)
        simp only [Bool.false_eq_true, if_false, unsigned, same, List.cons_append, takeMinus]
        split
        · next minus =>
            rw [(List.cons.inj minus).1] at digit
            cases digit
        · rfl
  unfold readNumber
  simp only [signed, unsigned, whole, fraction, power]
  unfold Numeral.value Numeral.isWhole Numeral.exponent
  cases n.power with
  | none => cases n.fraction.isEmpty <;> rfl
  | some digits => cases n.fraction.isEmpty <;> rfl

end JsonReader

end ReportCompiler
