import ReportCompiler.Proofs.Number.Shortest
import ReportCompiler.Value.Numeric

/-!
Which decimals have a double: those that stay below the middle between the greatest double and the power
of two after it. From there on a decimal is read as an infinite number, and so is a text that begins with one.
-/

namespace ReportCompiler

namespace Double

/-- The middle between the greatest double and what would be the next one. -/
def limit : ℚ := (2 ^ 53 - 1 / 2) * 2 ^ greatestExponent

theorem limit_pos : 0 < limit := mul_pos (by norm_num) (two_zpow_pos _)

theorem isFinite_nearest_zero (negative : Bool) (den : Nat) :
    (nearest negative 0 den).isFinite = true := rfl

theorem isFinite_nearest_pos (negative : Bool) (num den : Nat) (positive : 0 < num) :
    (nearest negative num den).isFinite = true ↔
      if roundDivEven (num * (scale 1 (exponentOf num den)).2)
          (den * (scale 1 (exponentOf num den)).1) = 2 ^ 53
      then exponentOf num den + 1 ≤ greatestExponent else exponentOf num den ≤ greatestExponent := by
  unfold nearest
  rw [if_neg positive.ne']
  simp only [Nat.pow_eq]
  split
  · split
    · next beyond => exact iff_of_false Bool.false_ne_true (not_le.mpr beyond)
    · next within => exact iff_of_true rfl (not_lt.mp within)
  · split
    · next beyond => exact iff_of_false Bool.false_ne_true (not_le.mpr beyond)
    · next within => exact iff_of_true rfl (not_lt.mp within)

-- At the greatest exponent the mantissa decides: it must not be rounded up to a power of two.
theorem roundsTo_carry_iff (q : ℚ) (mantissa : Nat) (rounds : RoundsTo q mantissa)
    (below : q < 2 ^ 53) : mantissa = 2 ^ 53 ↔ 2 ^ 53 - 1 / 2 ≤ q := by
  obtain ⟨low, high, even⟩ := rounds
  have small : mantissa < 2 ^ 53 + 1 := by
    have : (mantissa : ℚ) < (2 ^ 53 + 1 : Nat) := by
      push_cast
      linarith
    exact_mod_cast this
  constructor
  · rintro rfl
    push_cast at low
    exact low
  · intro above
    refine Decidable.by_contra fun other => ?_
    have less : mantissa ≤ 2 ^ 53 - 1 := by omega
    have cast : (mantissa : ℚ) ≤ 2 ^ 53 - 1 := by
      have : ((2 ^ 53 - 1 : Nat) : ℚ) = 2 ^ 53 - 1 := by norm_num
      exact this ▸ Nat.cast_le.mpr less
    -- The tie below the power of two goes to the power, since the mantissa before it is odd.
    have tied := even (.inr (by linarith))
    have greatest : (2 ^ 53 - 1 : ℚ) = mantissa := le_antisymm (by linarith) cast
    have greatest : 2 ^ 53 - 1 = mantissa := by
      norm_num at greatest
      exact_mod_cast greatest
    omega

/-- A ratio has a double just below the limit. -/
theorem isFinite_nearest_iff (negative : Bool) (num den : Nat) (den_pos : 0 < den) :
    (nearest negative num den).isFinite = true ↔ (num : ℚ) / den < limit := by
  rcases Nat.eq_zero_or_pos num with rfl | positive
  · rw [Nat.cast_zero, zero_div]
    exact iff_of_true (isFinite_nearest_zero negative den) limit_pos
  rw [isFinite_nearest_pos negative num den positive]
  have suits := suits_exponentOf num den positive den_pos
  have rounds := roundsTo_scaled num den den_pos (exponentOf num den)
  generalize exponentOf num den = exponent at *
  generalize roundDivEven (num * (scale 1 exponent).2) (den * (scale 1 exponent).1) = mantissa at *
  generalize (num : ℚ) / den = q at *
  obtain ⟨least, below, full⟩ := suits
  have unit := two_zpow_pos exponent
  have carry := roundsTo_carry_iff _ mantissa rounds ((div_lt_iff₀ unit).mpr below)
  rw [le_div_iff₀ unit] at carry
  rcases lt_trichotomy exponent greatestExponent with less | rfl | more
  · -- One exponent less is enough even for a mantissa that is rounded up.
    have half : (2 : ℚ) ^ exponent ≤ 2 ^ (greatestExponent - 1) := two_zpow_le (by omega)
    have next : (2 : ℚ) ^ greatestExponent = 2 * 2 ^ (greatestExponent - 1) := by
      rw [← two_zpow_succ, sub_add_cancel]
    refine iff_of_true ?_ ?_
    · split <;> omega
    · rw [limit, next]
      linarith [two_zpow_pos (greatestExponent - 1)]
  · rw [limit, ← not_le, ← carry]
    by_cases carried : mantissa = 2 ^ 53
    · rw [if_pos carried]
      exact iff_of_false (by omega) (not_not.mpr carried)
    · rw [if_neg carried]
      exact iff_of_true (le_refl _) carried
  · have step : 2 * (2 : ℚ) ^ greatestExponent ≤ 2 ^ exponent := by
      rw [← two_zpow_succ]
      exact two_zpow_le (by omega)
    have above : 2 ^ 52 * (2 : ℚ) ^ exponent ≤ q := by
      refine full.resolve_left fun same => ?_
      rw [same] at more
      exact absurd more (by decide)
    refine iff_of_false ?_ (not_lt.mpr ?_)
    · split <;> omega
    · rw [limit]
      linarith [two_zpow_pos greatestExponent]

theorem ten_pow_lt_limit : (10 : ℚ) ^ (-326 : Int) < limit := by
  have one : (1 : ℚ) ≤ 2 ^ greatestExponent := one_le_zpow₀ (by norm_num) (by decide)
  have small : (10 : ℚ) ^ (-326 : Int) < 10 ^ (0 : Int) :=
    (zpow_lt_zpow_iff_right₀ (by norm_num)).mpr (by decide)
  rw [zpow_zero] at small
  rw [limit]
  linarith

theorem limit_lt_ten_pow : limit < (10 : ℚ) ^ (310 : Int) := by
  refine lt_trans ?_ two_pow_lt_ten_pow
  have whole : (2 : ℚ) ^ (1024 : Int) = 2 ^ 53 * 2 ^ greatestExponent := by
    rw [← zpow_natCast, ← zpow_add₀ (by norm_num)]
    rfl
  rw [whole, limit]
  exact mul_lt_mul_of_pos_right (by norm_num) (two_zpow_pos greatestExponent)

/-- A decimal has a double just below the limit. -/
theorem isFinite_ofDecimal_iff (negative : Bool) (coefficient : Nat) (power : Int) :
    (ofDecimal negative coefficient power).isFinite = true ↔
      (coefficient : ℚ) * 10 ^ power < limit := by
  rcases Nat.eq_zero_or_pos coefficient with rfl | positive
  · rw [Nat.cast_zero, zero_mul]
    exact iff_of_true rfl limit_pos
  obtain ⟨low, high⟩ := decimal_bounds coefficient power positive
  by_cases large : power + decimalLength coefficient > 310
  · rw [ofDecimal, if_neg positive.ne', if_pos large]
    refine iff_of_false Bool.false_ne_true (not_lt.mpr ?_)
    exact limit_lt_ten_pow.le.trans ((ten_zpow_le (by omega)).trans low)
  by_cases small : power + decimalLength coefficient < -326
  · rw [ofDecimal, if_neg positive.ne', if_neg large, if_pos small]
    exact iff_of_true rfl (high.trans ((ten_zpow_le small.le).trans_lt ten_pow_lt_limit))
  · rw [ofDecimal_eq_nearest negative coefficient power positive large small,
      isFinite_nearest_iff negative _ _ (decimalRatio_snd_pos coefficient power),
      decimalRatio_fst_div_snd]

theorem toInt?_of_not_isFinite (x : Double) (infinite : x.isFinite = false) : x.toInt? = none := by
  cases x with
  | finite negative mantissa exponent => cases infinite
  | _ => rfl

end Double

/-- What the digits of a decimal number stand for. -/
def Reader.Parts.magnitude (parts : Reader.Parts) : ℚ :=
  Text.digitsValue (parts.whole ++ parts.fraction) * 10 ^ (parts.exponent - parts.fraction.length)

/-- The digits that a text begins with, if any, stand for too little to be infinite. -/
def Text.StaysInRange (text : String) : Prop :=
  ∀ parts, Reader.takeDecimal? (Reader.takeSign (trimLeft text.toList)).2 = some parts →
    parts.magnitude < Double.limit

theorem Number.isFinite_ofParts (parts : Reader.Parts) (negative : Bool) :
    (match (parts.toDouble negative).toInt? with
      | some n => if parts.pointed then Number.double (parts.toDouble negative) else .int n
      | none => .double (parts.toDouble negative)).isFinite = true ↔
        parts.magnitude < Double.limit := by
  rw [Reader.Parts.magnitude, ← Double.isFinite_ofDecimal_iff negative]
  change _ ↔ (parts.toDouble negative).isFinite = true
  generalize parts.toDouble negative = x
  -- Only finite numbers have whole values.
  cases finite : x.isFinite with
  | false =>
      rw [x.toInt?_of_not_isFinite finite]
      exact iff_of_false (Bool.eq_false_iff.mp finite) Bool.false_ne_true
  | true =>
      refine iff_of_true ?_ rfl
      split
      · split
        · exact finite
        · rfl
      · exact finite

/-- The number that a text begins with is infinite just when its digits stand for too much. -/
theorem Number.isFinite_ofLeading?_iff (text : String) :
    (∀ n, Number.ofLeading? text = some n → n.isFinite = true) ↔ Text.StaysInRange text := by
  unfold Number.ofLeading? Text.StaysInRange
  generalize Reader.takeSign (Text.trimLeft text.toList) = signed
  obtain ⟨negative, unsigned⟩ := signed
  simp only [Option.map_eq_some_iff, forall_exists_index, and_imp]
  constructor
  · exact fun holds parts taken => (Number.isFinite_ofParts parts negative).mp
      (holds _ parts taken rfl)
  · rintro holds n parts taken rfl
    exact (Number.isFinite_ofParts parts negative).mpr (holds parts taken)

end ReportCompiler
