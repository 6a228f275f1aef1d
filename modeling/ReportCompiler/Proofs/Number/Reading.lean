import ReportCompiler.Proofs.Number.Numeral
import ReportCompiler.Proofs.Number.Range
import ReportCompiler.Proofs.Number.Shortest
import ReportCompiler.Proofs.Number.Text
import ReportCompiler.Proofs.Text.Trimming

/-!
The text of a number, read as the number that a text begins with. It is the same number again just when a
double has its value: what is read goes through a double, and infinite numbers are not read at all.
-/

namespace ReportCompiler

open ReportCompiler.Text

namespace Double

/-! ### What is read is held -/

/-- When finite, a number that doubles can hold. -/
def IsProper (x : Double) : Prop := x.isFinite = true → x.IsHeld

theorem isProper_zero (negative : Bool) : (finite negative 0 leastExponent).IsProper :=
  fun _ => ⟨by decide, by decide, by decide, .inl rfl⟩

theorem isProper_nearest (negative : Bool) (num den : Nat) (den_pos : 0 < den) :
    (nearest negative num den).IsProper := by
  rcases Nat.eq_zero_or_pos num with rfl | positive
  · exact isProper_zero negative
  intro finite
  have within := (isFinite_nearest_pos negative num den positive).mp finite
  obtain ⟨least, below, full⟩ := suits_exponentOf num den positive den_pos
  obtain ⟨low, high, _⟩ := roundsTo_scaled num den den_pos (exponentOf num den)
  unfold nearest
  rw [if_neg positive.ne']
  simp only [Nat.pow_eq]
  generalize exponentOf num den = exponent at *
  generalize roundDivEven (num * (scale 1 exponent).2) (den * (scale 1 exponent).1) = mantissa at *
  have unit := two_zpow_pos exponent
  have small : mantissa < 2 ^ 53 + 1 := by
    have : (mantissa : ℚ) < (2 ^ 53 + 1 : Nat) := by
      rw [← div_lt_iff₀ unit] at below
      push_cast
      linarith
    exact_mod_cast this
  split at within
  · next carried =>
      simp only [carried, if_true, if_neg (not_lt.mpr within)]
      exact ⟨by omega, within, by decide, .inr (Nat.le_refl _)⟩
  · next other =>
      simp only [other, if_false, if_neg (not_lt.mpr within)]
      refine ⟨least, within, by omega, full.imp_right fun bits => ?_⟩
      rw [← le_div_iff₀ unit] at bits
      have : ((2 ^ 52 : Nat) : ℚ) < (mantissa + 1 : Nat) := by
        push_cast
        linarith
      have : 2 ^ 52 < mantissa + 1 := by exact_mod_cast this
      omega

theorem isProper_ofDecimal (negative : Bool) (coefficient : Nat) (power : Int) :
    (ofDecimal negative coefficient power).IsProper := by
  unfold ofDecimal
  split
  · exact isProper_zero negative
  · split
    · exact fun finite => by cases finite
    · split
      · exact isProper_zero negative
      · split
        · exact isProper_nearest negative _ 1 Nat.one_pos
        · exact isProper_nearest negative coefficient _ (Nat.pow_pos (by decide))

theorem isNaN_nearest (negative : Bool) (num den : Nat) : (nearest negative num den).isNaN = false := by
  unfold nearest
  split
  · rfl
  · dsimp only
    generalize (if roundDivEven _ _ = _ then _ else _ : Nat × Int) = rounded
    split <;> rfl

theorem isNaN_ofDecimal (negative : Bool) (coefficient : Nat) (power : Int) :
    (ofDecimal negative coefficient power).isNaN = false := by
  unfold ofDecimal
  repeat' split
  · rfl
  · rfl
  · rfl
  · exact isNaN_nearest _ _ _
  · exact isNaN_nearest _ _ _

end Double

/-! ### Numerals -/

namespace Numeral

/-- The nearest double to what the numeral stands for. -/
def double (n : Numeral) : Double := Double.ofDecimal n.negative n.coefficient n.exponent

/-- The number that a text which begins with the numeral is read as. -/
def reading (n : Numeral) : Number :=
  match n.double.toInt? with
  | some i => if n.fraction.isEmpty then .int i else .double n.double
  | none => .double n.double

theorem powerChars_ends (power : Option (Bool × List Char)) :
    ∀ c ∈ (powerChars power).head?, isDecimalDigit c = false := by
  intro c first
  cases power with
  | none => cases first
  | some digits =>
      obtain rfl : 'e' = c := Option.some.inj first
      decide

theorem fractionChars_ends (fraction : List Char) (power : Option (Bool × List Char)) :
    ∀ c ∈ (fractionChars fraction ++ powerChars power).head?, isDecimalDigit c = false := by
  intro c first
  cases fraction with
  | nil => exact powerChars_ends power c first
  | cons digit more =>
      obtain rfl : '.' = c := Option.some.inj first
      decide

theorem takeExponent_powerChars (power : Option (Bool × List Char))
    (digits : ∀ signed ∈ power, AreDigits signed.2 ∧ signed.2 ≠ []) :
    Reader.takeExponent (powerChars power) = (powerValue power, []) := by
  cases power with
  | none => rfl
  | some signed =>
      obtain ⟨minus, written⟩ := signed
      obtain ⟨areDigits, some_digit⟩ := digits (minus, written) rfl
      have taken := Reader.takeDigits_run written []
        (fun c member => isDecimalDigit_of_isDigit c (areDigits c member)) (fun c first => by cases first)
      rw [List.append_nil] at taken
      cases minus <;> simp [powerChars, powerValue, Reader.takeExponent, Reader.takeSign, taken, some_digit]

theorem takeDecimal?_unsigned (n : Numeral) :
    Reader.takeDecimal? n.unsigned =
      some { whole := n.whole, fraction := n.fraction, exponent := powerValue n.power,
             pointed := !n.fraction.isEmpty, rest := [] } := by
  have decimal (digits : List Char) (all : AreDigits digits) : ∀ c ∈ digits, isDecimalDigit c = true :=
    fun c member => isDecimalDigit_of_isDigit c (all c member)
  have whole := Reader.takeDigits_run n.whole (fractionChars n.fraction ++ powerChars n.power)
    (decimal _ n.whole_digits) (fractionChars_ends n.fraction n.power)
  have some_digit : n.whole.isEmpty = false := by simpa using n.whole_ne_nil
  have power := takeExponent_powerChars n.power n.power_digits
  rw [Reader.takeDecimal?, unsigned, whole]
  cases written : n.fraction with
  | nil =>
      rw [show fractionChars [] ++ powerChars n.power = powerChars n.power from rfl]
      cases sign : n.power with
      | none => simp [powerChars, powerValue, some_digit, Reader.takeExponent]
      | some signed =>
          rw [sign] at power
          rw [powerChars] at power ⊢
          simp [some_digit, power]
  | cons c more =>
      have fraction := Reader.takeDigits_run n.fraction (powerChars n.power)
        (decimal _ n.fraction_digits) (powerChars_ends n.power)
      rw [written] at fraction
      rw [show fractionChars (c :: more) ++ powerChars n.power =
        '.' :: (c :: more ++ powerChars n.power) from rfl]
      simp only [fraction, some_digit, power, Bool.false_and, Bool.false_eq_true, if_false,
        List.isEmpty_cons, Bool.not_false]

theorem exists_first (n : Numeral) : ∃ c rest, n.unsigned = c :: rest ∧ isDecimalDigit c = true := by
  obtain ⟨c, more, same⟩ := List.exists_cons_of_ne_nil n.whole_ne_nil
  refine ⟨c, more ++ (fractionChars n.fraction ++ powerChars n.power), by rw [unsigned, same]; rfl, ?_⟩
  exact isDecimalDigit_of_isDigit c (n.whole_digits c (by rw [same]; exact List.mem_cons_self))

theorem chars_ne_nil (n : Numeral) : n.chars ≠ [] := by
  obtain ⟨c, rest, unsigned, _⟩ := n.exists_first
  rw [chars, unsigned]
  split <;> exact List.cons_ne_nil _ _

theorem ne_of_isDecimalDigit (c mark : Char) (other : isDecimalDigit mark = false)
    (digit : isDecimalDigit c = true) : c ≠ mark := by
  rintro rfl
  rw [digit] at other
  cases other

theorem takeSign_chars (n : Numeral) : Reader.takeSign n.chars = (n.negative, n.unsigned) := by
  obtain ⟨c, rest, unsigned, digit⟩ := n.exists_first
  have minus := ne_of_isDecimalDigit c '-' (by decide) digit
  have plus := ne_of_isDecimalDigit c '+' (by decide) digit
  cases sign : n.negative with
  | true => rw [chars, sign, if_pos rfl, Reader.takeSign]
  | false =>
      rw [chars, sign, if_neg Bool.false_ne_true, unsigned]
      simp [Reader.takeSign, minus, plus]

theorem trimLeft_chars (n : Numeral) : trimLeft n.chars = n.chars := by
  obtain ⟨c, rest, unsigned, digit⟩ := n.exists_first
  cases sign : n.negative with
  | true =>
      rw [chars, sign, if_pos rfl]
      exact trimLeft_cons_of_not_blank rfl _
  | false =>
      rw [chars, sign, if_neg Bool.false_ne_true, unsigned]
      refine trimLeft_cons_of_not_blank (Bool.eq_false_iff.mpr fun blank => ?_) rest
      rw [isDecimalDigit_of_isBlank c blank] at digit
      cases digit

end Numeral

namespace Number

theorem ofLeading?_of_trimLeft (text : String) (n : Numeral) (chars : trimLeft text.toList = n.chars) :
    ofLeading? text = some n.reading := by
  rw [ofLeading?, chars, n.takeSign_chars]
  simp only [n.takeDecimal?_unsigned, Option.map_some]
  have double : Reader.Parts.toDouble
      { whole := n.whole, fraction := n.fraction, exponent := Numeral.powerValue n.power,
        pointed := !n.fraction.isEmpty, rest := [] } n.negative = n.double := rfl
  rw [double, Numeral.reading]
  cases n.fraction <;> cases n.double.toInt? <;> rfl

/-- A blank before a text changes nothing about the number that it begins with. -/
theorem ofLeading?_blank (c : Char) (blank : isBlank c = true) (chars : List Char) :
    ofLeading? (String.ofList (c :: chars)) = ofLeading? (String.ofList chars) := by
  rw [ofLeading?, ofLeading?, String.toList_ofList, String.toList_ofList, trimLeft_cons_blank blank]

/-! ### Equal values -/

theorem same_comm (x y : Number) : x.same y = y.same x := Bool.and_comm _ _

theorem same_self (x : Number) (number : x.isNaN = false) : x.same x = true := by
  have placed : ∃ p, x.place? = some p := by
    cases x with
    | int i => exact ⟨_, rfl⟩
    | double x =>
        cases x with
        | nan => cases number
        | infinite negative => cases negative <;> exact ⟨_, rfl⟩
        | finite negative mantissa exponent => exact ⟨_, rfl⟩
  obtain ⟨p, place⟩ := placed
  have irrefl := x.lt_irrefl
  simp only [lt, place] at irrefl
  simp only [same, le, place, irrefl]
  rfl

theorem same_int_int_iff (i j : Int) : (int i).same (int j) = true ↔ i = j := by
  simp [same, le, place?, Place.lt]
  omega

theorem tdiv_eq_iff (num i : Int) (den : Nat) (den_pos : 0 < den) :
    (num.natAbs % den = 0 ∧ num.tdiv den = i) ↔ num = i * den := by
  have den_ne : (den : Int) ≠ 0 := by omega
  constructor
  · rintro ⟨whole, rfl⟩
    have divides : (den : Int) ∣ num := Int.natCast_dvd.mpr (Nat.dvd_of_mod_eq_zero whole)
    exact (Int.tdiv_mul_cancel divides).symm
  · rintro rfl
    rw [Int.natAbs_mul, Int.natAbs_natCast]
    exact ⟨Nat.mul_mod_left _ _, Int.mul_tdiv_cancel i den_ne⟩

/-- A double equals the integer that it has for a whole value. -/
theorem same_int_iff (x : Double) (i : Int) : (double x).same (int i) = true ↔ x.toInt? = some i := by
  cases x with
  | nan => simp [same, le, place?, Double.toInt?, Double.ratio?]
  | infinite negative =>
      cases negative <;> simp [same, le, place?, Place.lt, Double.toInt?, Double.ratio?]
  | finite negative mantissa exponent =>
      simp only [same, le, place?, Place.lt, Double.toInt?, Double.ratio?, Option.map_some]
      rw [Option.ite_none_right_eq_some, Option.some_inj,
        tdiv_eq_iff _ i _ (Double.scale_snd_pos mantissa exponent)]
      simp only [Bool.and_eq_true, Bool.not_eq_true', decide_eq_false_iff_not]
      omega

/-! ### Numbers that doubles can stand for -/

/-- An integer, or a double as doubles are. -/
def IsProper : Number → Prop
  | int _ => True
  | double x => x.IsProper

/-- Some double has the value. -/
def HasDouble (n : Number) : Prop := ∃ x : Double, x.IsHeld ∧ (double x).same n = true

theorem exists_finite_of_isHeld (x : Double) (held : x.IsHeld) :
    ∃ negative mantissa exponent, x = .finite negative mantissa exponent ∧
      Double.IsRepresentable mantissa exponent := by
  cases x with
  | finite negative mantissa exponent => exact ⟨negative, mantissa, exponent, rfl, held⟩
  | _ => cases held

theorem magnitude_of_toInt? (negative : Bool) (mantissa : Nat) (exponent i : Int)
    (whole : (Double.finite negative mantissa exponent).toInt? = some i) :
    (mantissa : ℚ) * 2 ^ exponent = i.natAbs := by
  have den_pos := Double.scale_snd_pos mantissa exponent
  simp only [Double.toInt?, Double.ratio?] at whole
  rw [Option.ite_none_right_eq_some, Option.some_inj, tdiv_eq_iff _ i _ den_pos] at whole
  have exact : (Double.scale mantissa exponent).1 = i.natAbs * (Double.scale mantissa exponent).2 := by
    have sizes := congrArg Int.natAbs whole
    rw [Int.natAbs_mul, Int.natAbs_natCast] at sizes
    rw [← sizes]
    split <;> simp
  have den_ne : ((Double.scale mantissa exponent).2 : ℚ) ≠ 0 := by exact_mod_cast den_pos.ne'
  rw [← Double.scale_fst_div_snd, exact, Nat.cast_mul, mul_div_cancel_right₀ _ den_ne]

/-- The digits of an integer are read as the nearest double to it. -/
theorem double_ofInt (i : Int) : (Numeral.ofInt i).double = Double.ofDecimal (i < 0) i.natAbs 0 := by
  have coefficient : (Numeral.ofInt i).coefficient = i.natAbs := by
    rw [Numeral.coefficient, show (Numeral.ofInt i).fraction = [] from rfl, List.append_nil]
    exact digitsValue_toDigits i.natAbs
  rw [Numeral.double, coefficient]
  rfl

theorem signed_natAbs (i : Int) : (if decide (i < 0) = true then -(i.natAbs : Int) else i.natAbs) = i := by
  split
  · next below =>
      have := of_decide_eq_true below
      omega
  · next notBelow =>
      have : ¬ i < 0 := fun below => notBelow (decide_eq_true below)
      omega

/-- The digits of an integer are read as the double of its value, if there is one. -/
theorem hasDouble_int_iff (i : Int) :
    (int i).HasDouble ↔ (Numeral.ofInt i).double.toInt? = some i := by
  rw [double_ofInt]
  constructor
  · rintro ⟨x, held, same⟩
    rw [same_int_iff] at same
    obtain ⟨negative, mantissa, exponent, rfl, representable⟩ := exists_finite_of_isHeld x held
    have magnitude := magnitude_of_toInt? negative mantissa exponent i same
    rcases Nat.eq_zero_or_pos mantissa with rfl | positive
    · have zero : i.natAbs = 0 := by
        rw [Nat.cast_zero, zero_mul] at magnitude
        exact_mod_cast magnitude.symm
      rw [Double.toInt?_ofDecimal _ _ (by omega), signed_natAbs]
    · have reach := Double.inReach_self mantissa exponent
      rw [magnitude, ← mul_one (i.natAbs : ℚ), ← zpow_zero (10 : ℚ)] at reach
      rw [Double.ofDecimal_of_inReach _ i.natAbs 0 mantissa exponent representable positive reach,
        Double.toInt?_finite _ mantissa exponent i.natAbs magnitude, signed_natAbs]
  · intro whole
    refine ⟨_, Double.isProper_ofDecimal _ _ _ ?_, (same_int_iff _ i).mpr whole⟩
    cases finite : (Double.ofDecimal (decide (i < 0)) i.natAbs 0).isFinite with
    | true => rfl
    | false =>
        rw [Double.toInt?_of_not_isFinite _ finite] at whole
        cases whole

/-- Every integer of up to `2 ^ 53` has a double. -/
theorem hasDouble_of_small (i : Int) (small : i.natAbs ≤ 2 ^ 53) : (int i).HasDouble := by
  rw [hasDouble_int_iff, double_ofInt, Double.toInt?_ofDecimal _ _ small, signed_natAbs]

theorem not_hasDouble_of_not_isFinite (x : Double) (infinite : x.isFinite = false) :
    ¬ (double x).HasDouble := by
  rintro ⟨y, held, same⟩
  obtain ⟨negative, mantissa, exponent, rfl, _⟩ := exists_finite_of_isHeld y held
  cases x with
  | finite => cases infinite
  | nan => simp [Number.same, le, place?] at same
  | infinite above => cases above <;> simp [Number.same, le, place?, Double.ratio?, Place.lt] at same

/-! ### The text of a number -/

theorem ofLeading?_toString (i : Int) : ofLeading? (toString i) = some (Numeral.ofInt i).reading := by
  apply ofLeading?_of_trimLeft
  rw [← Numeral.chars_ofInt, Numeral.trimLeft_chars]

theorem text_ne_empty (n : Number) : n.text ≠ "" := by
  have written (text : String) (numeral : Numeral) (chars : numeral.chars = text.toList) : text ≠ "" := by
    rintro rfl
    exact numeral.chars_ne_nil chars
  have digits (i : Int) : toString i ≠ "" := written _ (.ofInt i) (Numeral.chars_ofInt i)
  cases n with
  | int i => exact digits i
  | double x =>
      cases x with
      | nan => decide
      | infinite negative => cases negative <;> decide
      | finite negative mantissa exponent =>
          obtain ⟨numeral, chars, _⟩ := Double.exists_numeral negative mantissa exponent
          simp only [text]
          split
          · exact digits _
          · exact written _ numeral chars

/-- What the digits of an integer are read as equals the integer just when a double does. -/
theorem reading_ofInt_iff (i : Int) :
    (Numeral.ofInt i).reading.same (int i) = true ↔ (int i).HasDouble := by
  rw [hasDouble_int_iff, Numeral.reading]
  cases whole : (Numeral.ofInt i).double.toInt? with
  | some j =>
      rw [Option.some_inj]
      exact same_int_int_iff j i
  | none =>
      have other := same_int_iff (Numeral.ofInt i).double i
      rwa [whole] at other

-- A whole value is shown as an integer, and read as one; all other finite doubles are read as they are.
theorem ofLeading?_text_of_held (x : Double) (held : x.IsHeld) :
    ∃ m, ofLeading? (double x).text = some m ∧ m.same (double x) = true := by
  obtain ⟨negative, mantissa, exponent, rfl, representable⟩ := exists_finite_of_isHeld x held
  cases whole : (Double.finite negative mantissa exponent).toInt? with
  | some i =>
      have text : (double (.finite negative mantissa exponent)).text = toString i := by
        simp only [Number.text, whole]
      have own : (int i).HasDouble := ⟨_, held, (same_int_iff _ i).mpr whole⟩
      have read : (Numeral.ofInt i).reading = int i := by
        rw [Numeral.reading, (hasDouble_int_iff i).mp own]
        rfl
      refine ⟨int i, by rw [text, ofLeading?_toString, read], ?_⟩
      rw [same_comm]
      exact (same_int_iff _ i).mpr whole
  | none =>
      have text : (double (.finite negative mantissa exponent)).text =
          (Double.finite negative mantissa exponent).text := by
        simp only [Number.text, whole]
      obtain ⟨numeral, chars, value⟩ := Double.exists_numeral negative mantissa exponent
      rw [Double.readBack_eq _ held] at value
      have double : numeral.double = .finite negative mantissa exponent := by
        rw [Numeral.value] at value
        split at value
        · cases value
        · exact Number.double.inj value
      refine ⟨_, ?_, same_self _ rfl⟩
      rw [text, ofLeading?_of_trimLeft _ numeral (by rw [← chars, numeral.trimLeft_chars]),
        Numeral.reading, double, whole]

/-- The text of a number is read as a number of the same value just when a double has the value. -/
theorem ofLeading?_text_iff (n : Number) (proper : n.IsProper) :
    (∃ m, ofLeading? n.text = some m ∧ m.same n = true) ↔ n.HasDouble := by
  cases n with
  | int i =>
      rw [← reading_ofInt_iff, show (int i).text = toString i from rfl, ofLeading?_toString]
      simp
  | double x =>
      cases finite : x.isFinite with
      | true =>
          have held := proper finite
          have number : (double x).isNaN = false := by cases x <;> first | rfl | cases finite
          exact iff_of_true (ofLeading?_text_of_held x held) ⟨x, held, same_self _ number⟩
      | false =>
          refine iff_of_false ?_ (not_hasDouble_of_not_isFinite x finite)
          rintro ⟨m, read, _⟩
          have unread : ofLeading? (double x).text = none := by
            cases x with
            | finite => cases finite
            | nan => rfl
            | infinite negative => cases negative <;> rfl
          rw [unread] at read
          cases read

end Number

end ReportCompiler
