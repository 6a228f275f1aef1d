import ReportCompiler.Proofs.Number.Digits
import ReportCompiler.Proofs.Number.Nearest

/-!
The shortest decimal of a double is one of the decimals that are rounded to it: a grid of seventeen
digits is always fine enough, and reading the decimal gives the double back.
-/

namespace ReportCompiler

namespace Double

/-! ### Decimals as rational numbers -/

theorem ten_zpow_pos (exponent : Int) : (0 : ℚ) < 10 ^ exponent := zpow_pos (by norm_num) exponent

theorem ten_zpow_le {small large : Int} (le : small ≤ large) : (10 : ℚ) ^ small ≤ 10 ^ large :=
  zpow_le_zpow_right₀ (by norm_num) le

theorem decimalRatio_fst_div_snd (digits : Nat) (exponent : Int) :
    ((decimalRatio digits exponent).1 : ℚ) / (decimalRatio digits exponent).2 =
      digits * 10 ^ exponent := by
  unfold decimalRatio
  split
  · next up =>
      obtain ⟨n, rfl⟩ := Int.eq_ofNat_of_zero_le up
      simp
  · next down =>
      obtain ⟨n, same⟩ := Int.eq_ofNat_of_zero_le (show 0 ≤ -exponent by omega)
      obtain rfl : exponent = -(n : Int) := by omega
      simp [div_eq_mul_inv]

theorem decimalRatio_snd_pos (digits : Nat) (exponent : Int) :
    0 < (decimalRatio digits exponent).2 := by
  unfold decimalRatio
  split
  · exact Nat.one_pos
  · exact Nat.pow_pos (by decide)

theorem decimalRatio_fst_pos (digits : Nat) (exponent : Int) (positive : 0 < digits) :
    0 < (decimalRatio digits exponent).1 := by
  unfold decimalRatio
  split
  · exact Nat.mul_pos positive (Nat.pow_pos (by decide))
  · exact positive

/-- A natural number lies between two powers of ten that are one apart. -/
theorem decimalLength_bounds (n : Nat) (positive : 0 < n) :
    (10 : ℚ) ^ ((decimalLength n : Int) - 1) ≤ n ∧ (n : ℚ) < 10 ^ (decimalLength n : Int) := by
  have length := decimalLength_pos n
  constructor
  · have low : ((10 ^ (decimalLength n - 1) : Nat) : ℚ) ≤ n := by
      exact_mod_cast pow_decimalLength_le n positive
    have exponent : (decimalLength n : Int) - 1 = (decimalLength n - 1 : Nat) := by omega
    rw [exponent, zpow_natCast]
    exact_mod_cast low
  · rw [zpow_natCast]
    exact_mod_cast lt_pow_decimalLength n

/-! ### Reading a decimal -/

theorem two_pow_lt_ten_pow : (2 : ℚ) ^ (1024 : Int) < 10 ^ (310 : Int) := by
  have powers : 2 ^ 1024 < 10 ^ 310 := by decide +kernel
  exact_mod_cast powers

theorem ten_pow_lt_two_pow : (10 : ℚ) ^ (-327 : Int) < 2 ^ (-1075 : Int) := by
  have powers : 2 ^ 1075 < 10 ^ 327 := by decide +kernel
  rw [zpow_neg, zpow_neg, inv_lt_inv₀ (ten_zpow_pos _) (two_zpow_pos _)]
  exact_mod_cast powers

/-- Every number that is rounded to a double other than zero is within the range of doubles. -/
theorem InReach.range {mantissa : Nat} {exponent : Int} {q : ℚ}
    (reach : InReach mantissa exponent q) (representable : IsRepresentable mantissa exponent)
    (positive : 0 < mantissa) : 2 ^ (-1075 : Int) ≤ q ∧ q < 2 ^ (1024 : Int) := by
  obtain ⟨least, greatest, small, -⟩ := representable
  have unit := two_zpow_pos exponent
  have below_half := reachBelow_le mantissa exponent
  constructor
  · have one : (1 : ℚ) ≤ mantissa := by exact_mod_cast positive
    have half : (2 : ℚ) ^ leastExponent = 2 * 2 ^ (-1075 : Int) := by
      rw [← two_zpow_succ]
      rfl
    calc (2 : ℚ) ^ (-1075 : Int) = 1 / 2 * 2 ^ leastExponent := by linarith
      _ ≤ 1 / 2 * 2 ^ exponent := mul_le_mul_of_nonneg_left (two_zpow_le least) (by norm_num)
      _ ≤ (mantissa - reachBelow mantissa exponent) * 2 ^ exponent :=
          mul_le_mul_of_nonneg_right (by linarith) unit.le
      _ ≤ q := reach.low
  · have whole : (mantissa : ℚ) + 1 ≤ 2 ^ 53 := by exact_mod_cast small
    calc q ≤ (mantissa + 1 / 2) * 2 ^ exponent := reach.high
      _ < 2 ^ 53 * 2 ^ exponent := mul_lt_mul_of_pos_right (by linarith) unit
      _ ≤ 2 ^ 53 * 2 ^ greatestExponent :=
          mul_le_mul_of_nonneg_left (two_zpow_le greatest) (by norm_num)
      _ = 2 ^ (1024 : Int) := by
          rw [← zpow_natCast, ← zpow_add₀ (by norm_num)]
          rfl

theorem pointPlace_unique {q : ℚ} {first second : Int} (low : (10 : ℚ) ^ (first - 1) ≤ q)
    (high : q < 10 ^ first) (low' : (10 : ℚ) ^ (second - 1) ≤ q) (high' : q < 10 ^ second) :
    first = second := by
  have one := (zpow_lt_zpow_iff_right₀ (by norm_num)).mp (lt_of_le_of_lt low high')
  have other := (zpow_lt_zpow_iff_right₀ (by norm_num)).mp (lt_of_le_of_lt low' high)
  omega

/-- The place of the point is between two powers of ten that are one apart. -/
theorem decimal_bounds (coefficient : Nat) (power : Int) (positive : 0 < coefficient) :
    (10 : ℚ) ^ (power + decimalLength coefficient - 1) ≤ coefficient * 10 ^ power ∧
      (coefficient : ℚ) * 10 ^ power < 10 ^ (power + decimalLength coefficient) := by
  obtain ⟨low, high⟩ := decimalLength_bounds coefficient positive
  constructor
  · rw [show power + decimalLength coefficient - 1 = ((decimalLength coefficient : Int) - 1) + power by
      ring, zpow_add₀ (by norm_num)]
    exact mul_le_mul_of_nonneg_right low (ten_zpow_pos _).le
  · rw [add_comm, zpow_add₀ (by norm_num)]
    exact mul_lt_mul_of_pos_right high (ten_zpow_pos _)

/-- Between the guards, a decimal is read as the double nearest to its ratio. -/
theorem ofDecimal_eq_nearest (negative : Bool) (coefficient : Nat) (power : Int)
    (positive : 0 < coefficient) (notLarge : ¬ power + decimalLength coefficient > 310)
    (notSmall : ¬ power + decimalLength coefficient < -326) :
    ofDecimal negative coefficient power =
      nearest negative (decimalRatio coefficient power).1 (decimalRatio coefficient power).2 := by
  unfold ofDecimal decimalRatio
  rw [if_neg positive.ne', if_neg notLarge, if_neg notSmall]
  split <;> rfl

/-- A decimal is read the same however many zeros it is written with. -/
theorem ofDecimal_congr (negative : Bool) (coefficient other : Nat) (power shifted : Int)
    (same : (coefficient : ℚ) * 10 ^ power = other * 10 ^ shifted) :
    ofDecimal negative coefficient power = ofDecimal negative other shifted := by
  have zero_iff : coefficient = 0 ↔ other = 0 := by
    have left := (ten_zpow_pos power).ne'
    have right := (ten_zpow_pos shifted).ne'
    constructor <;> intro zero <;> rw [zero, Nat.cast_zero, zero_mul] at same
    · exact_mod_cast (mul_eq_zero.mp same.symm).resolve_right right
    · exact_mod_cast (mul_eq_zero.mp same).resolve_right left
  rcases Nat.eq_zero_or_pos coefficient with zero | positive
  · rw [zero, zero_iff.mp zero, ofDecimal, ofDecimal, if_pos rfl, if_pos rfl]
  · have positive' := Nat.pos_of_ne_zero fun zero => positive.ne' (zero_iff.mpr zero)
    obtain ⟨low, high⟩ := decimal_bounds coefficient power positive
    obtain ⟨low', high'⟩ := decimal_bounds other shifted positive'
    rw [← same] at low' high'
    have point := pointPlace_unique low high low' high'
    by_cases large : power + decimalLength coefficient > 310
    · have large' : shifted + decimalLength other > 310 := point ▸ large
      rw [ofDecimal, ofDecimal, if_neg positive.ne', if_neg positive'.ne', if_pos large,
        if_pos large']
    · have large' : ¬ shifted + decimalLength other > 310 := point ▸ large
      by_cases small : power + decimalLength coefficient < -326
      · have small' : shifted + decimalLength other < -326 := point ▸ small
        rw [ofDecimal, ofDecimal, if_neg positive.ne', if_neg positive'.ne', if_neg large,
          if_neg large', if_pos small, if_pos small']
      · have small' : ¬ shifted + decimalLength other < -326 := point ▸ small
        rw [ofDecimal_eq_nearest negative coefficient power positive large small,
          ofDecimal_eq_nearest negative other shifted positive' large' small']
        apply nearest_congr negative _ _ _ _ (decimalRatio_fst_pos _ _ positive)
          (decimalRatio_snd_pos _ _) (decimalRatio_fst_pos _ _ positive') (decimalRatio_snd_pos _ _)
        rw [decimalRatio_fst_div_snd, decimalRatio_fst_div_snd, same]

/-- A decimal in the interval of a double is read as that double. -/
theorem ofDecimal_of_inReach (negative : Bool) (coefficient : Nat) (power : Int) (mantissa : Nat)
    (exponent : Int) (representable : IsRepresentable mantissa exponent) (positive : 0 < mantissa)
    (reach : InReach mantissa exponent (coefficient * 10 ^ power)) :
    ofDecimal negative coefficient power = finite negative mantissa exponent := by
  obtain ⟨large, small⟩ := reach.range representable positive
  have coefficient_pos : 0 < coefficient := by
    refine Nat.pos_of_ne_zero fun zero => ?_
    rw [zero, Nat.cast_zero, zero_mul] at large
    exact absurd large (not_le.mpr (two_zpow_pos _))
  obtain ⟨low, high⟩ := decimal_bounds coefficient power coefficient_pos
  have notLarge : ¬ power + decimalLength coefficient > 310 := by
    intro beyond
    have : (10 : ℚ) ^ (310 : Int) ≤ coefficient * 10 ^ power :=
      le_trans (ten_zpow_le (by omega)) low
    exact absurd small (not_lt.mpr (two_pow_lt_ten_pow.le.trans this))
  have notSmall : ¬ power + decimalLength coefficient < -326 := by
    intro beyond
    have : (coefficient : ℚ) * 10 ^ power < 10 ^ (-327 : Int) :=
      lt_of_lt_of_le high (ten_zpow_le (by omega))
    exact absurd large (not_le.mpr (this.trans ten_pow_lt_two_pow))
  rw [ofDecimal_eq_nearest negative coefficient power coefficient_pos notLarge notSmall]
  rw [← decimalRatio_fst_div_snd] at reach
  exact nearest_of_inReach negative _ _ (decimalRatio_fst_pos coefficient power coefficient_pos)
    (decimalRatio_snd_pos coefficient power) mantissa exponent representable reach

/-! ### The interval over naturals -/

theorem quarter_unit (exponent : Int) :
    4 * (((scale 1 (exponent - 2)).1 : ℚ) / (scale 1 (exponent - 2)).2) = 2 ^ exponent := by
  rw [scale_fst_div_snd, Nat.cast_one, one_mul, zpow_sub₀ (by norm_num)]
  ring

theorem rounding_low (mantissa : Nat) (exponent : Int) (positive : 0 < mantissa) :
    ((rounding mantissa exponent).low : ℚ) / (rounding mantissa exponent).den =
      (mantissa - reachBelow mantissa exponent) * 2 ^ exponent := by
  -- The interval is counted in quarters of a unit.
  have quarters (below : Nat) (few : below ≤ 2) (reach : reachBelow mantissa exponent = below / 4) :
      (((4 * mantissa - below) * (scale 1 (exponent - 2)).1 : Nat) : ℚ) / (scale 1 (exponent - 2)).2 =
        (mantissa - reachBelow mantissa exponent) * 2 ^ exponent := by
    rw [← quarter_unit, reach, Nat.cast_mul, Nat.cast_sub (by omega)]
    push_cast
    ring
  unfold rounding
  by_cases power : mantissa = 2 ^ 52 ∧ leastExponent < exponent
  · have tested : (decide (mantissa = Nat.pow 2 52) && decide (leastExponent < exponent)) = true := by
      simpa using power
    simp only [tested, if_true]
    exact quarters 1 (by decide) (by rw [reachBelow, if_pos power]; norm_num)
  · have tested : ¬ (decide (mantissa = Nat.pow 2 52) && decide (leastExponent < exponent)) = true := by
      simpa using power
    simp only [tested]
    exact quarters 2 (by decide) (by rw [reachBelow, if_neg power]; norm_num)

theorem rounding_high (mantissa : Nat) (exponent : Int) :
    ((rounding mantissa exponent).high : ℚ) / (rounding mantissa exponent).den =
      (mantissa + 1 / 2) * 2 ^ exponent := by
  simp only [rounding]
  rw [← quarter_unit, Nat.cast_mul]
  push_cast
  ring

theorem rounding_holds_iff (mantissa : Nat) (exponent : Int) (positive : 0 < mantissa) (num den : Nat)
    (den_pos : 0 < den) :
    (rounding mantissa exponent).holds num den = true ↔
      InReach mantissa exponent ((num : ℚ) / den) := by
  have parts_pos : 0 < (rounding mantissa exponent).den := scale_snd_pos 1 (exponent - 2)
  have low := rounding_low mantissa exponent positive
  have high := rounding_high mantissa exponent
  have closed : (rounding mantissa exponent).closed = (mantissa % 2 == 0) := rfl
  generalize rounding mantissa exponent = r at *
  unfold Rounding.holds
  rw [closed]
  by_cases even : mantissa % 2 = 0
  · simp only [even, beq_self_eq_true, if_true, Bool.and_eq_true, decide_eq_true_eq]
    rw [cross_le_iff r.low r.den num den parts_pos den_pos,
      cross_le_iff num den r.high r.den den_pos parts_pos, low, high]
    constructor
    · rintro ⟨above, below⟩
      exact ⟨above, below, fun _ => even⟩
    · rintro ⟨above, below, -⟩
      exact ⟨above, below⟩
  · have open_ends : (mantissa % 2 == 0) = false := by simpa using even
    simp only [open_ends, Bool.false_eq_true, if_false, Bool.and_eq_true, decide_eq_true_eq]
    rw [cross_lt_iff r.low r.den num den parts_pos den_pos,
      cross_lt_iff num den r.high r.den den_pos parts_pos, low, high]
    constructor
    · rintro ⟨above, below⟩
      refine ⟨above.le, below.le, ?_⟩
      rintro (tied | tied)
      · exact absurd tied above.ne
      · exact absurd tied below.ne
    · rintro ⟨above, below, ends⟩
      exact ⟨lt_of_le_of_ne above fun tied => even (ends (.inl tied)),
        lt_of_le_of_ne below fun tied => even (ends (.inr tied))⟩

/-! ### The grids -/

theorem decimalExponent_bounds (num den : Nat) (num_pos : 0 < num) (den_pos : 0 < den) :
    (10 : ℚ) ^ (decimalExponent num den - 1) ≤ (num : ℚ) / den ∧
      (num : ℚ) / den < 10 ^ decimalExponent num den := by
  obtain ⟨num_low, num_high⟩ := decimalLength_bounds num num_pos
  obtain ⟨den_low, den_high⟩ := decimalLength_bounds den den_pos
  have den_pos' : (0 : ℚ) < den := by exact_mod_cast den_pos
  unfold decimalExponent
  generalize guessed : (decimalLength num : Int) - (decimalLength den : Int) = guess
  have low : (10 : ℚ) ^ (guess - 1) ≤ (num : ℚ) / den := by
    rw [le_div_iff₀ den_pos']
    calc (10 : ℚ) ^ (guess - 1) * den ≤ 10 ^ (guess - 1) * 10 ^ (decimalLength den : Int) :=
          mul_le_mul_of_nonneg_left den_high.le (ten_zpow_pos _).le
      _ = 10 ^ ((decimalLength num : Int) - 1) := by
          rw [← zpow_add₀ (by norm_num), ← guessed]
          congr 1
          ring
      _ ≤ num := num_low
  have high : (num : ℚ) / den < 10 ^ (guess + 1) := by
    rw [div_lt_iff₀ den_pos']
    calc (num : ℚ) < 10 ^ (decimalLength num : Int) := num_high
      _ = 10 ^ (guess + 1) * 10 ^ ((decimalLength den : Int) - 1) := by
          rw [← zpow_add₀ (by norm_num), ← guessed]
          congr 1
          ring
      _ ≤ 10 ^ (guess + 1) * den := mul_le_mul_of_nonneg_left den_low (ten_zpow_pos _).le
  have reaches : (if 0 ≤ guess then den * Nat.pow 10 guess.toNat ≤ num
      else den ≤ num * Nat.pow 10 (-guess).toNat) ↔ (10 : ℚ) ^ guess ≤ (num : ℚ) / den := by
    have crossed := cross_le_iff (decimalRatio 1 guess).1 (decimalRatio 1 guess).2 num den
      (decimalRatio_snd_pos 1 guess) den_pos
    rw [decimalRatio_fst_div_snd, Nat.cast_one, one_mul] at crossed
    rw [← crossed]
    unfold decimalRatio
    split
    · simp [Nat.mul_comm]
    · simp
  simp only
  by_cases above : (10 : ℚ) ^ guess ≤ (num : ℚ) / den
  · rw [if_pos (reaches.mpr above), add_sub_cancel_right]
    exact ⟨above, high⟩
  · rw [if_neg fun reached => above (reaches.mp reached)]
    exact ⟨low, not_le.mp above⟩

/-- What `onGrid?` and the search settle for. -/
def Fits (r : Rounding) (digits : Nat) (exponent : Int) : Prop :=
  0 < digits ∧ r.holds (decimalRatio digits exponent).1 (decimalRatio digits exponent).2 = true

theorem fits_of_onGrid? (r : Rounding) (num den : Nat) (exponent : Int) (digits : Nat)
    (found : onGrid? r num den exponent = some digits) : Fits r digits exponent := by
  unfold onGrid? at found
  simp only [Bool.and_eq_true, decide_eq_true_eq] at found
  split at found
  · next fits =>
      cases found
      exact fits
  · split at found
    · next fits =>
        cases found
        exact fits
    · split at found
      · next fits =>
          cases found
          exact fits
      · cases found

theorem onGrid?_isSome (r : Rounding) (num den : Nat) (exponent : Int)
    (fits : Fits r (roundDivEven (num * (decimalRatio 1 exponent).2) (den * (decimalRatio 1 exponent).1))
      exponent) : (onGrid? r num den exponent).isSome = true := by
  unfold onGrid?
  simp only
  rw [if_pos (by simpa [Fits] using fits)]
  rfl

-- The induction is on the grids that are left; the grid that is known to have a decimal is one of them.
theorem fits_searchGrids (r : Rounding) (num den : Nat) (count : Nat) (exponent : Int) (step : Nat)
    (inside : step < count) (found : (onGrid? r num den (exponent - step)).isSome = true) :
    Fits r (searchGrids r num den exponent count).1 (searchGrids r num den exponent count).2 := by
  induction count generalizing exponent step with
  | zero => omega
  | succ count ih =>
      unfold searchGrids
      cases here : onGrid? r num den exponent with
      | some digits => exact fits_of_onGrid? r num den exponent digits here
      | none =>
          cases step with
          | zero =>
              rw [Nat.cast_zero, sub_zero, here] at found
              cases found
          | succ step =>
              refine ih (exponent - 1) step (by omega) ?_
              rw [show exponent - 1 - (step : Int) = exponent - (step + 1 : Nat) by push_cast; ring]
              exact found

/-- Seventeen digits are enough: the nearest decimal on such a grid is within the interval. -/
theorem fits_seventeen (mantissa : Nat) (exponent : Int) (positive : 0 < mantissa)
    (small : mantissa < 2 ^ 53) (grid : Int)
    (fine : (10 : ℚ) ^ (grid + 16) ≤ mantissa * 2 ^ exponent) :
    Fits (rounding mantissa exponent)
      (roundDivEven ((scale mantissa exponent).1 * (decimalRatio 1 grid).2)
        ((scale mantissa exponent).2 * (decimalRatio 1 grid).1)) grid := by
  have step_pos := ten_zpow_pos grid
  have rounds := roundsTo_roundDivEven ((scale mantissa exponent).1 * (decimalRatio 1 grid).2)
    ((scale mantissa exponent).2 * (decimalRatio 1 grid).1)
    (Nat.mul_pos (scale_snd_pos _ _) (decimalRatio_fst_pos 1 grid Nat.one_pos))
  generalize roundDivEven ((scale mantissa exponent).1 * (decimalRatio 1 grid).2)
    ((scale mantissa exponent).2 * (decimalRatio 1 grid).1) = digits at *
  rw [Nat.cast_mul, Nat.cast_mul, ← div_div_div_eq, scale_fst_div_snd, decimalRatio_fst_div_snd,
    Nat.cast_one, one_mul] at rounds
  obtain ⟨low, high, -⟩ := rounds
  rw [le_div_iff₀ step_pos] at low
  rw [div_le_iff₀ step_pos] at high
  rw [zpow_add₀ (by norm_num)] at fine
  have unit := two_zpow_pos exponent
  -- Half a step of the grid is less than the interval reaches on either side.
  have half_step : 10 ^ grid / 2 < reachBelow mantissa exponent * 2 ^ exponent := by
    norm_num at fine
    unfold reachBelow
    split
    · next power =>
        rw [power.1] at fine
        push_cast at fine
        linarith
    · have below : (mantissa : ℚ) * 2 ^ exponent ≤ 2 ^ 53 * 2 ^ exponent :=
        mul_le_mul_of_nonneg_right (by exact_mod_cast small.le) unit.le
      linarith
  have digits_pos : 0 < digits := by
    refine Nat.pos_of_ne_zero fun zero => ?_
    rw [zero, Nat.cast_zero] at high
    norm_num at fine
    linarith
  refine ⟨digits_pos, ?_⟩
  rw [rounding_holds_iff mantissa exponent positive _ _ (decimalRatio_snd_pos digits grid),
    decimalRatio_fst_div_snd]
  have below_half := mul_le_mul_of_nonneg_right (reachBelow_le mantissa exponent) unit.le
  refine ⟨by linarith, by linarith, ?_⟩
  rintro (tied | tied) <;> linarith

theorem shortest_inReach (mantissa : Nat) (exponent : Int) (positive : 0 < mantissa)
    (small : mantissa < 2 ^ 53) :
    InReach mantissa exponent
      ((shortest mantissa exponent).1 * 10 ^ (shortest mantissa exponent).2) := by
  have num_pos := scale_fst_pos mantissa exponent positive
  have den_pos := scale_snd_pos mantissa exponent
  have reached := (decimalExponent_bounds _ _ num_pos den_pos).1
  rw [scale_fst_div_snd] at reached
  have fits := fits_searchGrids (rounding mantissa exponent) (scale mantissa exponent).1
    (scale mantissa exponent).2 18
    (decimalExponent (scale mantissa exponent).1 (scale mantissa exponent).2 - 1) 16 (by decide)
    (onGrid?_isSome _ _ _ _ (fits_seventeen mantissa exponent positive small _ (by
      refine le_of_eq_of_le ?_ reached
      congr 1
      push_cast
      ring)))
  obtain ⟨-, holds⟩ := fits
  rw [rounding_holds_iff mantissa exponent positive _ _ (decimalRatio_snd_pos _ _),
    decimalRatio_fst_div_snd] at holds
  exact holds

theorem searchGrids_pos (r : Rounding) (num den : Nat) (positive : 0 < num) (exponent : Int)
    (count : Nat) : 0 < (searchGrids r num den exponent count).1 := by
  induction count generalizing exponent with
  | zero => exact positive
  | succ count ih =>
      unfold searchGrids
      cases here : onGrid? r num den exponent with
      | some digits => exact (fits_of_onGrid? r num den exponent digits here).1
      | none => exact ih (exponent - 1)

theorem shortest_pos (mantissa : Nat) (exponent : Int) (positive : 0 < mantissa) :
    0 < (shortest mantissa exponent).1 :=
  searchGrids_pos _ _ _ (scale_fst_pos mantissa exponent positive) _ _

/-- The shortest decimal of a double is read as that double. -/
theorem ofDecimal_shortest (negative : Bool) (mantissa : Nat) (exponent : Int)
    (positive : 0 < mantissa) (representable : IsRepresentable mantissa exponent) :
    ofDecimal negative (shortest mantissa exponent).1 (shortest mantissa exponent).2 =
      finite negative mantissa exponent :=
  ofDecimal_of_inReach negative _ _ mantissa exponent representable positive
    (shortest_inReach mantissa exponent positive representable.2.2.1)

/-! ### Whole numbers

Up to `2 ^ 53` each whole number has a double of its own, so it is the number that its digits are read as.
-/

theorem inReach_self (mantissa : Nat) (exponent : Int) :
    InReach mantissa exponent (mantissa * 2 ^ exponent) := by
  have unit := two_zpow_pos exponent
  have below : 0 < reachBelow mantissa exponent := by
    rw [reachBelow]
    split <;> norm_num
  constructor
  · exact mul_le_mul_of_nonneg_right (by linarith) unit.le
  · exact mul_le_mul_of_nonneg_right (by linarith) unit.le
  · rintro (same | same)
    · have := mul_right_cancel₀ unit.ne' same
      linarith
    · have := mul_right_cancel₀ unit.ne' same
      linarith

-- A number of fewer than 53 bits is shifted up to that length; the limit itself is a power of two.
theorem exists_representable (n : Nat) (positive : 0 < n) (small : n ≤ 2 ^ 53) :
    ∃ mantissa exponent, IsRepresentable mantissa exponent ∧ 0 < mantissa ∧
      (mantissa : ℚ) * 2 ^ exponent = n := by
  rcases Nat.eq_or_lt_of_le small with limit | less
  · refine ⟨2 ^ 52, 1, ⟨by decide, by decide, by decide, .inr (Nat.le_refl _)⟩, by decide, ?_⟩
    rw [limit]
    norm_num
  · have bits : n.log2 ≤ 52 := Nat.le_of_lt_succ ((Nat.log2_lt positive.ne').mpr less)
    have low : 2 ^ n.log2 ≤ n := Nat.log2_self_le positive.ne'
    have high : n < 2 ^ (n.log2 + 1) := Nat.lt_log2_self
    have shift (length : Nat) (more : n.log2 ≤ length) : 2 ^ length = 2 ^ n.log2 * 2 ^ (length - n.log2) := by
      rw [← Nat.pow_add]
      congr 1
      omega
    refine ⟨n * 2 ^ (52 - n.log2), -((52 - n.log2 : Nat) : Int), ⟨?_, ?_, ?_, .inr ?_⟩, ?_, ?_⟩
    · rw [leastExponent]
      omega
    · rw [greatestExponent]
      omega
    · calc n * 2 ^ (52 - n.log2) < 2 ^ (n.log2 + 1) * 2 ^ (52 - n.log2) :=
            Nat.mul_lt_mul_of_pos_right high (Nat.pow_pos (by decide))
        _ = 2 ^ 53 := by
            rw [← Nat.pow_add]
            congr 1
            omega
    · rw [shift 52 bits]
      exact Nat.mul_le_mul_right _ low
    · exact Nat.mul_pos positive (Nat.pow_pos (by decide))
    · rw [zpow_neg, zpow_natCast]
      push_cast
      exact mul_inv_cancel_right₀ (by positivity) _

theorem toInt?_finite (negative : Bool) (mantissa : Nat) (exponent : Int) (n : Nat)
    (whole : (mantissa : ℚ) * 2 ^ exponent = n) :
    (finite negative mantissa exponent).toInt? = some (if negative then -(n : Int) else n) := by
  have den_pos := scale_snd_pos mantissa exponent
  have exact : (scale mantissa exponent).1 = n * (scale mantissa exponent).2 := by
    have ratio := scale_fst_div_snd mantissa exponent
    rw [whole, div_eq_iff (by exact_mod_cast den_pos.ne')] at ratio
    exact_mod_cast ratio
  have den_ne : ((scale mantissa exponent).2 : Int) ≠ 0 := by omega
  rw [toInt?, ratio?]
  simp only [exact]
  cases negative with
  | false =>
      rw [if_neg Bool.false_ne_true, if_neg Bool.false_ne_true, Int.natAbs_natCast, Nat.mul_mod_left,
        if_pos rfl, Nat.cast_mul, Int.mul_tdiv_cancel _ den_ne]
  | true =>
      rw [if_pos rfl, if_pos rfl, Int.natAbs_neg, Int.natAbs_natCast, Nat.mul_mod_left, if_pos rfl,
        Nat.cast_mul, Int.neg_tdiv, Int.mul_tdiv_cancel _ den_ne]

/-- The digits of a whole number of at most `2 ^ 53` are read as that number. -/
theorem toInt?_ofDecimal (negative : Bool) (n : Nat) (small : n ≤ 2 ^ 53) :
    (ofDecimal negative n 0).toInt? = some (if negative then -(n : Int) else n) := by
  rcases Nat.eq_zero_or_pos n with rfl | positive
  · rw [ofDecimal, if_pos rfl]
    apply toInt?_finite
    simp
  · obtain ⟨mantissa, exponent, representable, mantissa_pos, whole⟩ := exists_representable n positive small
    have reach := inReach_self mantissa exponent
    rw [whole, ← mul_one (n : ℚ), ← zpow_zero (10 : ℚ)] at reach
    rw [ofDecimal_of_inReach negative n 0 mantissa exponent representable mantissa_pos reach]
    exact toInt?_finite negative mantissa exponent n whole

end Double

end ReportCompiler
